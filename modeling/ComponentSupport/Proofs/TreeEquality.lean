import ComponentSupport.Json.Parser
import ComponentSupport.Yaml.Expansion

/-!
# Trees that are equal

Two trees that are the same may differ in the order of their fields (`Tree.same`). Whether they are
equal is computed by `Tree.equals`, so that a computation can say which tree a text is read as
(`Tree.ofYaml_eq_ok_of_any`, `Tree.ofJson?_eq_some_of_any`). A text that was written is given by its
characters, and the computation is spared its bytes (`Yaml.characters_ofList`).
-/

namespace ComponentSupport

theorem Yaml.characters_ofList (cs : List Char) :
    characters (String.ofList cs) =
      if cs.all isAllowed then .ok (joinBreaks cs) else .error .controlCharacter := by
  rw [characters, String.toList_ofList]

namespace Tree

mutual

/-- Whether two trees are equal, the order of fields included. -/
def equals : Tree → Tree → Bool
  | null, null => true
  | bool a, bool b => a == b
  | int a, int b => a == b
  | real a, real b => a == b
  | text a, text b => a == b
  | list a, list b => equalItems a b
  | record a, record b => equalFields a b
  | tagged s a, tagged t b => s == t && a.equals b
  | _, _ => false

/-- Whether two lists of trees are equal. -/
def equalItems : List Tree → List Tree → Bool
  | [], [] => true
  | a :: as, b :: bs => a.equals b && equalItems as bs
  | _, _ => false

/-- Whether two lists of fields are equal. -/
def equalFields : List (Tree × Tree) → List (Tree × Tree) → Bool
  | [], [] => true
  | (j, a) :: as, (k, b) :: bs => j.equals k && a.equals b && equalFields as bs
  | _, _ => false

end

mutual

theorem eq_of_equals {a b : Tree} (h : a.equals b = true) : a = b := by
  cases a <;> cases b <;> simp [equals] at h ⊢
  case bool.bool => exact h
  case int.int => exact h
  case real.real => exact h
  case text.text => exact h
  case list.list => exact eq_of_equalItems h
  case record.record => exact eq_of_equalFields h
  case tagged.tagged => exact ⟨h.1, eq_of_equals h.2⟩
termination_by structural a

theorem eq_of_equalItems {as bs : List Tree} (h : equalItems as bs = true) : as = bs := by
  cases as <;> cases bs <;> simp [equalItems] at h ⊢
  exact ⟨eq_of_equals h.1, eq_of_equalItems h.2⟩
termination_by structural as

theorem eq_of_equalFields {as bs : List (Tree × Tree)} (h : equalFields as bs = true) :
    as = bs := by
  cases as with
  | nil => cases bs <;> simp [equalFields] at h ⊢
  | cons a as =>
    cases bs with
    | nil => simp [equalFields] at h
    | cons b bs =>
      obtain ⟨j, a⟩ := a
      obtain ⟨k, b⟩ := b
      simp only [equalFields, Bool.and_eq_true] at h
      rw [eq_of_equals h.1.1, eq_of_equals h.1.2, eq_of_equalFields h.2]
termination_by structural as

end

/-- That a text is read as a tree can be computed. -/
theorem ofYaml_eq_ok_of_any {text : String} {t : Tree}
    (h : (ofYaml text).toOption.any t.equals = true) : ofYaml text = .ok t := by
  cases htext : ofYaml text with
  | error problem =>
    rw [htext] at h
    cases h
  | ok found =>
    rw [htext] at h
    rw [eq_of_equals h]

/-- That a JSON text is read as a tree can be computed. -/
theorem ofJson?_eq_some_of_any {text : String} {t : Tree}
    (h : (ofJson? text).any t.equals = true) : ofJson? text = some t := by
  obtain ⟨found, htext, hfound⟩ := (Option.any_eq_true ..).1 h
  rw [htext, eq_of_equals hfound]

end Tree

end ComponentSupport
