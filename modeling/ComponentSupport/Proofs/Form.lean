import ComponentSupport.Document.Config

/-!
# The form of a configuration

Which keys a mapping of a configuration may have depends on where it stands: at the top, in the
settings, in a strategy or in a matcher of some kind. A `Part` is such a place, `Part.partsOf` lists
the fields that a mapping there may have, each with the part in it, and `Tree.conforms` says that
every key of every mapping is one of those. A key is the name of a field, or its number, as
strategies and matchers allow; a list that stands for a mapping has no keys, but mappings may stand
in it.

`Tree.trim` drops the fields that do not belong where they stand, at every depth. What is left
conforms (`Tree.conforms_trim`), has the kinds that were stated (`Tree.variant_trim`), and has no
tag where there was none (`Tree.hasTag_trim`).
-/

namespace ComponentSupport

/-- What stands at a place in a configuration. -/
inductive Part where
  /-- A scalar, a choice or a list of texts. -/
  | value
  /-- A mapping with these fields. -/
  | fields (parts : List (String × Part))
  /-- A list of strategies. -/
  | strategies
  | strategy
  | matcher

/-- The fields of the strategies of a kind, beside the kind. -/
def StrategyConfig.Kind.parts : Kind → List (String × Part)
  | referencedTypes => [("include_indirect", .value)]
  | referencedTypesInSamePackage => [("include_indirect", .value), ("scope", .value)]
  | allTypesInPackage => []
  | allTypesUnderPackage => []
  | matchingTypes => [("inner", .strategy), ("matcher", .matcher)]
  | explicitTypes => [("inner", .strategy), ("include", .value), ("exclude", .value)]
  | composite => [("strategies", .strategies)]

/-- The fields of the matchers of a kind, beside the kind. -/
def MatcherConfig.Kind.parts : Kind → List (String × Part)
  | nameSuffix => [("suffix", .value)]
  | regex => [("pattern", .value)]
  | annotated => [("annotation", .value)]

namespace Part

/-- The settings that all strategies share. -/
def settings : Part :=
  fields [("max_traversal_nodes", value), ("parallel", value), ("assignment", value)]

/-- A whole configuration. -/
def document : Part :=
  fields [("version", value), ("analysis", settings), ("strategies", strategies)]

/-- A whole configuration, whatever its strategies are. -/
def outline : Part :=
  fields [("version", value), ("analysis", settings), ("strategies", value)]

/-- The field that holds the kind, where there are kinds. -/
def tag? : Part → Option String
  | strategy => some "kind"
  | matcher => some "type"
  | _ => none

/-- The fields of a kind, as the kind is stated; none if there is no such kind. -/
def stated {α : Type} (kinds : List (String × α)) (parts : α → List (String × Part))
    (kind : Tree) : List (String × Part) :=
  match Dialect.variant.pickKey kinds kind.untag with
  | .ok kind => parts kind
  | .error _ => []

/-- The fields that the mapping at a place may have, beside a kind. -/
def partsOf (t : Tree) : Part → List (String × Part)
  | fields parts => parts
  | strategy =>
    match t.variant "kind" with
    | .ok (kind, _) => stated StrategyConfig.kinds StrategyConfig.Kind.parts kind
    | .error _ => []
  | matcher =>
    match t.variant "type" with
    | .ok (kind, _) => stated MatcherConfig.kinds MatcherConfig.Kind.parts kind
    | .error _ => []
  | value => []
  | strategies => []

/-- What the items of a list at a place are. -/
def places (items : List Tree) : Part → List Part
  | value => []
  | fields parts => parts.map (·.2)
  | strategies => items.map fun _ => strategy
  | strategy => value :: (strategy.partsOf (.list items)).map (·.2)
  | matcher => value :: (matcher.partsOf (.list items)).map (·.2)

/-- What stands under a key: a field is named, or numbered. -/
def under? (parts : List (String × Part)) (key : Tree) : Option Part :=
  match key.untag with
  | .text name => (parts.find? (·.1 == name)).map (·.2)
  | .int (.ofNat n) => parts[n]?.map (·.2)
  | _ => none

/-- Whether a key is the one that holds the kind. -/
def isTag (p : Part) (key : Tree) : Bool := p.tag?.any fun tag => key == .text tag

end Part

namespace Tree

mutual

/-- Whether every key of every mapping is one that belongs there. -/
def conforms : Part → Tree → Bool
  | .value, _ => true
  | p, tagged _ t => conforms p t
  | p, record fields => fieldsConform p (p.partsOf (record fields)) fields
  | p, list items => itemsConform (p.places items) items
  | _, _ => true

/-- Whether the keys of the fields belong there, and so throughout their values. -/
def fieldsConform (p : Part) (parts : List (String × Part)) : List (Tree × Tree) → Bool
  | [] => true
  | (key, value) :: rest =>
    (p.isTag key || match Part.under? parts key with
      | some q => conforms q value
      | none => false) && fieldsConform p parts rest

/-- Whether the keys in each item belong there. -/
def itemsConform : List Part → List Tree → Bool
  | p :: ps, t :: rest => conforms p t && itemsConform ps rest
  | _, _ => true

end

mutual

/-- The tree without the fields that do not belong where they stand. -/
def trim : Part → Tree → Tree
  | .value, t => t
  | p, tagged tag t => tagged tag (trim p t)
  | p, record fields => record (trimFields p (p.partsOf (record fields)) fields)
  | p, list items => list (trimItems (p.places items) items)
  | _, t => t

/-- The fields that belong there, trimmed. -/
def trimFields (p : Part) (parts : List (String × Part)) :
    List (Tree × Tree) → List (Tree × Tree)
  | [] => []
  | (key, value) :: rest =>
    if p.isTag key then (key, value) :: trimFields p parts rest
    else match Part.under? parts key with
      | some q => (key, trim q value) :: trimFields p parts rest
      | none => trimFields p parts rest

/-- The items, trimmed. -/
def trimItems : List Part → List Tree → List Tree
  | p :: ps, t :: rest => trim p t :: trimItems ps rest
  | _, rest => rest

end


/-! ### Trees behind their tags -/

theorem untag_untag (t : Tree) : t.untag.untag = t.untag := by
  induction t using untag.induct with
  | case1 tag t ih => rw [untag, ih]
  | case2 t h =>
    cases t with
    | tagged tag t => exact absurd rfl (h tag t)
    | _ => rfl

theorem conforms_untag (p : Part) (t : Tree) : t.untag.conforms p = t.conforms p := by
  induction t using untag.induct with
  | case1 tag t ih =>
    rw [untag, ih]
    cases p <;> simp [conforms]
  | case2 t h =>
    cases t with
    | tagged tag t => exact absurd rfl (h tag t)
    | _ => rfl

/-! ### What trimming does to each tree -/

@[simp] theorem trim_value (t : Tree) : t.trim .value = t := by
  rw [trim]

theorem trim_tagged (p : Part) (tag : String) (t : Tree) :
    (tagged tag t).trim p = tagged tag (t.trim p) := by
  cases p <;> simp [trim]

theorem trim_record {p : Part} (hp : p ≠ .value) (fields : List (Tree × Tree)) :
    (record fields).trim p = record (trimFields p (p.partsOf (record fields)) fields) := by
  cases p with
  | value => exact absurd rfl hp
  | _ => rw [trim]; exact nofun

theorem trim_list {p : Part} (hp : p ≠ .value) (items : List Tree) :
    (list items).trim p = list (trimItems (p.places items) items) := by
  cases p with
  | value => exact absurd rfl hp
  | _ => rw [trim]; exact nofun

theorem untag_trim (p : Part) (t : Tree) : (t.trim p).untag = t.untag.trim p := by
  induction t using untag.induct with
  | case1 tag t ih => rw [trim_tagged, untag, untag, ih]
  | case2 t h =>
    cases t with
    | tagged tag t => exact absurd rfl (h tag t)
    | _ => cases p <;> simp [trim, untag]

theorem length_trimItems (places : List Part) (items : List Tree) :
    (trimItems places items).length = items.length := by
  induction places generalizing items with
  | nil => cases items <;> rfl
  | cons p ps ih =>
    cases items with
    | nil => rfl
    | cons t rest => rw [trimItems, List.length_cons, ih, List.length_cons]

theorem trimItems_map (p : Part) (items : List Tree) :
    trimItems (items.map fun _ => p) items = items.map (trim p) := by
  induction items with
  | nil => rfl
  | cons t rest ih => rw [List.map_cons, trimItems, ih, List.map_cons]

/-! ### Fields that stay -/

section fields

variable (p : Part) (parts : List (String × Part)) (fields : List (Tree × Tree))

/-- A mapping whose fields are known has no key that holds a kind. -/
@[simp] theorem isTag_fields (key : Tree) : (Part.fields parts).isTag key = false := rfl

/-- The field that holds the kind stays as it is. -/
theorem filter_isTag_trimFields :
    (trimFields p parts fields).filter (p.isTag ·.1) = fields.filter (p.isTag ·.1) := by
  induction fields with
  | nil => rfl
  | cons f rest ih =>
    obtain ⟨key, value⟩ := f
    cases htag : p.isTag key with
    | true => simp [trimFields, htag, ih]
    | false => cases hunder : Part.under? parts key <;> simp [trimFields, htag, hunder, ih]

/-- The other fields are trimmed as those of a mapping without a kind. -/
theorem filter_not_isTag_trimFields :
    (trimFields p parts fields).filter (!p.isTag ·.1) =
      trimFields (.fields parts) parts (fields.filter (!p.isTag ·.1)) := by
  induction fields with
  | nil => rfl
  | cons f rest ih =>
    obtain ⟨key, value⟩ := f
    cases htag : p.isTag key with
    | true => simp [trimFields, htag, ih]
    | false => cases hunder : Part.under? parts key <;> simp [trimFields, htag, hunder, ih]

/-- A field that holds a value stays as it is. -/
theorem find?_trimFields {name : String} (h : Part.under? parts (text name) = some .value) :
    (trimFields (.fields parts) parts fields).find? (·.1 == text name) =
      fields.find? (·.1 == text name) := by
  induction fields with
  | nil => rfl
  | cons f rest ih =>
    obtain ⟨key, value⟩ := f
    cases hkey : key == text name with
    | true =>
      obtain rfl : key = text name := by
        cases key with
        | text s => exact congrArg text (beq_iff_eq.1 hkey)
        | _ => cases hkey
      simp [trimFields, h, hkey]
    | false => cases hunder : Part.under? parts key <;> simp [trimFields, hunder, hkey, ih]

end fields

/-! ### Kinds that stay -/

section kinds

variable {p : Part} {tag : String}

theorem isTag_eq (h : p.tag? = some tag) (key : Tree) : p.isTag key = (key == text tag) := by
  rw [Part.isTag, h]
  rfl

/-- A trimmed variant has the kind that it had, and the rest of it is the rest, trimmed. -/
theorem variant_trim (h : p.tag? = some tag) (t : Tree) :
    (t.trim p).variant tag =
      (t.variant tag).map fun v => (v.1, v.2.trim (.fields (p.partsOf t))) := by
  have hp : p ≠ .value := by
    rintro rfl
    cases h
  cases t with
  | record fields =>
    have htag := filter_isTag_trimFields p (p.partsOf (record fields)) fields
    have hrest := filter_not_isTag_trimFields p (p.partsOf (record fields)) fields
    simp only [isTag_eq h] at htag hrest
    rw [trim_record hp, variant, variant, htag, hrest]
    split <;> rfl
  | list items =>
    have hplaces : p.places items = .value :: (p.partsOf (list items)).map (·.2) := by
      cases p with
      | strategy => rfl
      | matcher => rfl
      | _ => cases h
    rw [trim_list hp, hplaces]
    cases items with
    | nil => rfl
    | cons kind rest =>
      rw [trimItems, trim_value]
      rfl
  | tagged _ t =>
    rw [trim_tagged]
    rfl
  | _ => cases p <;> rfl

end kinds

theorem partsOf_trim (p : Part) (t : Tree) : p.partsOf (t.trim p) = p.partsOf t := by
  cases p with
  | strategy =>
    rw [Part.partsOf, Part.partsOf, variant_trim rfl]
    cases t.variant "kind" <;> rfl
  | matcher =>
    rw [Part.partsOf, Part.partsOf, variant_trim rfl]
    cases t.variant "type" <;> rfl
  | _ => rfl

theorem places_trimItems (p : Part) (items : List Tree) :
    p.places (trimItems (p.places items) items) = p.places items := by
  have hparts := partsOf_trim p (list items)
  cases p with
  | value => rfl
  | fields parts => rfl
  | strategies =>
    show (trimItems _ items).map _ = items.map _
    rw [List.map_const', List.map_const', length_trimItems]
  | strategy => exact congrArg (fun parts => Part.value :: parts.map (·.2)) hparts
  | matcher => exact congrArg (fun parts => Part.value :: parts.map (·.2)) hparts

/-! ### Trimmed trees -/

mutual

/-- No tag comes in. -/
theorem hasTag_trim (p : Part) {t : Tree} (h : t.hasTag = false) : (t.trim p).hasTag = false := by
  by_cases hp : p = .value
  · rw [hp, trim_value, h]
  cases t with
  | tagged tag t => cases h
  | list items =>
    rw [trim_list hp]
    exact itemsHaveTag_trimItems _ h
  | record fields =>
    rw [trim_record hp]
    exact fieldsHaveTag_trimFields p _ h
  | _ => cases p <;> exact h
termination_by structural t

theorem itemsHaveTag_trimItems (places : List Part) {items : List Tree}
    (h : itemsHaveTag items = false) : itemsHaveTag (trimItems places items) = false := by
  cases items with
  | nil => cases places <;> rfl
  | cons t rest =>
    cases places with
    | nil => exact h
    | cons p ps =>
      rw [itemsHaveTag, Bool.or_eq_false_iff] at h
      rw [trimItems, itemsHaveTag, hasTag_trim p h.1, itemsHaveTag_trimItems ps h.2]
      rfl
termination_by structural items

theorem fieldsHaveTag_trimFields (p : Part) (parts : List (String × Part))
    {fields : List (Tree × Tree)} (h : fieldsHaveTag fields = false) :
    fieldsHaveTag (trimFields p parts fields) = false := by
  cases fields with
  | nil => rfl
  | cons f rest =>
    obtain ⟨key, value⟩ := f
    simp only [fieldsHaveTag, Bool.or_eq_false_iff] at h
    have hrest := fieldsHaveTag_trimFields p parts h.2
    cases htag : p.isTag key with
    | true => simp [trimFields, fieldsHaveTag, htag, h.1, hrest]
    | false =>
      cases hunder : Part.under? parts key with
      | some q =>
        have hvalue := hasTag_trim q h.1.2
        simp [trimFields, fieldsHaveTag, htag, hunder, h.1.1, hvalue, hrest]
      | none => simp [trimFields, htag, hunder, hrest]
termination_by structural fields

end

mutual

/-- What is left of a tree conforms. -/
theorem conforms_trim (p : Part) (t : Tree) : (t.trim p).conforms p = true := by
  by_cases hp : p = .value
  · rw [hp, conforms]
  cases t with
  | tagged tag t =>
    rw [trim_tagged, conforms]
    · exact conforms_trim p t
    · exact hp
  | list items =>
    rw [trim_list hp, conforms, places_trimItems]
    · exact itemsConform_trimItems _ items
    · exact hp
  | record fields =>
    have hparts := partsOf_trim p (record fields)
    rw [trim_record hp] at hparts
    rw [trim_record hp, conforms, hparts]
    · exact fieldsConform_trimFields p _ fields
    · exact hp
  | _ => cases p <;> rfl
termination_by structural t

theorem itemsConform_trimItems (places : List Part) (items : List Tree) :
    itemsConform places (trimItems places items) = true := by
  cases items with
  | nil => cases places <;> rfl
  | cons t rest =>
    cases places with
    | nil => rfl
    | cons p ps =>
      rw [trimItems, itemsConform, conforms_trim p t, itemsConform_trimItems ps rest]
      rfl
termination_by structural items

theorem fieldsConform_trimFields (p : Part) (parts : List (String × Part))
    (fields : List (Tree × Tree)) : fieldsConform p parts (trimFields p parts fields) = true := by
  cases fields with
  | nil => rfl
  | cons f rest =>
    obtain ⟨key, value⟩ := f
    have hrest := fieldsConform_trimFields p parts rest
    cases htag : p.isTag key with
    | true => simp [trimFields, fieldsConform, htag, hrest]
    | false =>
      cases hunder : Part.under? parts key with
      | some q =>
        have hvalue := conforms_trim q value
        simp [trimFields, fieldsConform, htag, hunder, hvalue, hrest]
      | none => simp [trimFields, htag, hunder, hrest]
termination_by structural fields

end

end Tree

end ComponentSupport
