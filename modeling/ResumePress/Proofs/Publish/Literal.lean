import ResumePress.Proofs.Config.Reference
import ResumePress.Proofs.Publish.Source
import ResumePress.Proofs.Resume.Reading

/-!
# Texts of a resume file

References in a resume are not resolved, so its texts are meant to be taken as they are. Still the
configuration looks at every text: one that opens a reference and does not close it is refused, and
the resume with it. A file whose texts are all readable is the resume that its document describes.
The documents meant are those without anchors, aliases, tags, directives, merging keys and halves of
surrogate pairs; the others are not read here.
-/
namespace ResumePress

open Config (IsReadable refers)

namespace Config

/-- What a document denotes if its keys are texts. -/
inductive IsData : Value → Prop
  | null : IsData .null
  | bool (b : Bool) : IsData (.bool b)
  | int (n : Int) : IsData (.int n)
  | float (x : Binary64) : IsData (.float x)
  | text (s : String) : IsData (.text s)
  | list {items : List Value} (h : ∀ v ∈ items, IsData v) : IsData (.list items)
  | mapping {entries : List (Value × Value)} (hkeys : ∀ e ∈ entries, ∃ k, e.1 = .text k)
    (h : ∀ e ∈ entries, IsData e.2) : IsData (.mapping entries)

/-- The text is a value somewhere in the configuration. -/
inductive Holds (x : String) : Value → Prop
  | text : Holds x (.text x)
  | item {items : List Value} {v : Value} (hv : v ∈ items) (h : Holds x v) : Holds x (.list items)
  | entry {entries : List (Value × Value)} {e : Value × Value} (he : e ∈ entries)
    (h : Holds x e.2) : Holds x (.mapping entries)

def AllReadable (v : Value) : Prop :=
  ∀ x, Holds x v → IsReadable x

@[simp] theorem allReadable_text_iff {s : String} : AllReadable (.text s) ↔ IsReadable s := by
  constructor
  · intro h
    exact h s .text
  · rintro h x ⟨⟩
    exact h

@[simp] theorem allReadable_list_iff {items : List Value} :
    AllReadable (.list items) ↔ ∀ v ∈ items, AllReadable v := by
  constructor
  · intro h v hv x hx
    exact h x (.item hv hx)
  · rintro h x (_ | ⟨hv, hx⟩)
    exact h _ hv x hx

@[simp] theorem allReadable_mapping_iff {entries : List (Value × Value)} :
    AllReadable (.mapping entries) ↔ ∀ e ∈ entries, AllReadable e.2 := by
  constructor
  · intro h e he x hx
    exact h x (.entry he hx)
  · rintro h x (_ | _ | ⟨he, hx⟩)
    exact h _ he x hx

/-- What is looked at passes if `P` holds, and a reference in it cannot be read otherwise. -/
def Passes (P : Prop) (x : Except ConfigFault Unit) : Prop :=
  P ∧ x = .ok () ∨ ¬ P ∧ x = .error .badReference

theorem Passes.and {P Q : Prop} {x y : Except ConfigFault Unit} : Passes P x → Passes Q y →
    Passes (P ∧ Q) (match x with | .error e => .error e | .ok () => y) := by
  rintro (⟨hP, rfl⟩ | ⟨hP, rfl⟩) hy
  · rw [Passes, and_iff_right hP]
    exact hy
  · exact .inr ⟨fun h => hP h.1, rfl⟩

theorem passes_text (s : String) : Passes (IsReadable s) (check (.text s)) := by
  rw [check]
  by_cases h : IsReadable s
  · rw [isAccepted_iff.mpr h, Bool.not_true, Bool.and_false]
    exact .inl ⟨h, rfl⟩
  · have hrefers : refers s = true := by simpa using mt isReadable_of_not_refers h
    have haccepted : isAccepted s = false := by simpa using mt isAccepted_iff.mp h
    rw [hrefers, haccepted]
    exact .inr ⟨h, rfl⟩

theorem passes_items {items : List Value} (h : ∀ v ∈ items, Passes (AllReadable v) (check v)) :
    Passes (∀ v ∈ items, AllReadable v) (checkItems items) := by
  induction items with
  | nil => exact .inl ⟨by simp, by rw [checkItems]⟩
  | cons v items ih =>
    rw [List.forall_mem_cons] at h ⊢
    rw [checkItems]
    exact h.1.and (ih h.2)

theorem passes_entries {entries : List (Value × Value)}
    (hkeys : ∀ e ∈ entries, ∃ k, e.1 = .text k)
    (h : ∀ e ∈ entries, Passes (AllReadable e.2) (check e.2)) :
    Passes (∀ e ∈ entries, AllReadable e.2) (checkEntries entries) := by
  induction entries with
  | nil => exact .inl ⟨by simp, by rw [checkEntries]⟩
  | cons e entries ih =>
    obtain ⟨key, v⟩ := e
    rw [List.forall_mem_cons] at hkeys h ⊢
    obtain ⟨⟨k, rfl⟩, hkeys⟩ := hkeys
    rw [checkEntries]
    · exact h.1.and (ih hkeys h.2)
    · simp

/-- Nothing but a text that is not readable is refused. -/
theorem passes_check {v : Value} (h : IsData v) : Passes (AllReadable v) (check v) := by
  induction h with
  | null => exact .inl ⟨nofun, rfl⟩
  | bool => exact .inl ⟨nofun, rfl⟩
  | int => exact .inl ⟨nofun, rfl⟩
  | float => exact .inl ⟨nofun, rfl⟩
  | text s => simpa using passes_text s
  | list _ ih => simpa [check] using passes_items ih
  | mapping hkeys _ ih => simpa [check] using passes_entries hkeys ih

theorem ofText_eq {t : String} {entries : List (Value × Value)}
    (h : Yaml.value? (Text.unifyLineEnds t.toList) = .ok (some (.mapping entries))) :
    ofText t = check (.mapping entries) >>= fun _ => .ok (.mapping entries) := by
  rw [ofText, h]
  rfl

end Config

namespace Resume

open Config (AllReadable)

variable {s : Store} {p : Path} {t : String} {entries : List (Value × Value)}

theorem result_load_of_passes (hread : s.read p = .ok t)
    (hdoc : Yaml.value? (Text.unifyLineEnds t.toList) = .ok (some (.mapping entries))) :
    (load s p).result = liftConfig (Config.check (.mapping entries)) >>=
      fun _ => ofConfig (.mapping entries) := by
  rw [result_load, configOf_of_read hread, Config.ofText_eq hdoc]
  cases Config.check (.mapping entries) <;> rfl

/-- A file is the resume that its document describes if all texts in it are readable, and only then.
Otherwise it is refused for a reference. -/
theorem result_load_iff (hread : s.read p = .ok t)
    (hdoc : Yaml.value? (Text.unifyLineEnds t.toList) = .ok (some (.mapping entries)))
    (hdata : Config.IsData (.mapping entries)) :
    ((load s p).result = ofConfig (.mapping entries) ↔ AllReadable (.mapping entries)) ∧
      (¬ AllReadable (.mapping entries) →
        (load s p).result = .error (.config .badReference)) := by
  rw [result_load_of_passes hread hdoc]
  rcases Config.passes_check hdata with ⟨hall, hcheck⟩ | ⟨hall, hcheck⟩
  · rw [hcheck]
    exact ⟨iff_of_true rfl hall, fun h => absurd hall h⟩
  · rw [hcheck]
    exact ⟨iff_of_false (ofConfig_ne_config _ _).symm hall, fun _ => rfl⟩

def quotedText (name : String) : String :=
  "first_name: '" ++ name ++ "'\nlast_name: Lovelace\n"

def quotedPath : Path :=
  ⟨false, ["ada.yaml"]⟩

def quoted (name : String) : Store :=
  ⟨[(["ada.yaml"], .text (quotedText name))]⟩

theorem read_quoted (name : String) : (quoted name).read quotedPath = .ok (quotedText name) :=
  rfl

/-- The configuration that the text is meant to be. -/
def quotedConfig (name : String) : ConfigEntries :=
  [(.text "first_name", .text name), (.text "last_name", .text "Lovelace")]

theorem isData_quotedConfig (name : String) : Config.IsData (.mapping (quotedConfig name)) := by
  refine .mapping ?_ ?_ <;> simp [quotedConfig]
  exact ⟨.text name, .text "Lovelace"⟩

theorem allReadable_quotedConfig_iff (name : String) :
    AllReadable (.mapping (quotedConfig name)) ↔ IsReadable name := by
  have hlast : IsReadable "Lovelace" := Config.isReadable_of_not_refers (by decide +kernel)
  simp [quotedConfig, hlast]

def isQuoted (name : String) : Except ConfigFault (Option Value) → Bool
  | .ok (some (.mapping [(.text k, .text first), (.text l, .text last)])) =>
    k == "first_name" && first == name && l == "last_name" && last == "Lovelace"
  | _ => false

theorem eq_of_isQuoted {name : String} {x : Except ConfigFault (Option Value)}
    (h : isQuoted name x = true) : x = .ok (some (.mapping (quotedConfig name))) := by
  unfold isQuoted at h
  split at h
  · simp only [Bool.and_eq_true, beq_iff_eq] at h
    obtain ⟨⟨⟨rfl, rfl⟩, rfl⟩, rfl⟩ := h
    rfl
  · cases h

def unclosed : String :=
  "$\x7bunclosed"

theorem value?_unclosed : Yaml.value? (Text.unifyLineEnds (quotedText unclosed).toList) =
    .ok (some (.mapping (quotedConfig unclosed))) :=
  eq_of_isQuoted (by decide +kernel)

/-- A reference that is closed stands in the record as it is, and one that is open is a fault. -/
theorem result_load_iff_quoted :
    (load (quoted "$\x7bx\x7d") quotedPath).result =
        ofConfig (.mapping (quotedConfig "$\x7bx\x7d")) ∧
      (load (quoted unclosed) quotedPath).result = .error (.config .badReference) := by
  constructor
  · have hread : IsReadable "$\x7bx\x7d" := Config.isAccepted_iff.mp (by decide +kernel)
    refine (result_load_iff (read_quoted _) (eq_of_isQuoted (by decide +kernel))
      (isData_quotedConfig _)).1.mpr ?_
    exact (allReadable_quotedConfig_iff _).mpr hread
  · have hread : ¬ IsReadable unclosed := by
      rw [Config.isReadable_iff_of_not_mem] <;> decide +kernel
    refine (result_load_iff (read_quoted _) value?_unclosed (isData_quotedConfig _)).2 ?_
    exact mt (allReadable_quotedConfig_iff _).mp hread

/-- A text with a reference that stays open is not taken as it is. -/
theorem not_forall_result_load : ¬ ∀ (s : Store) (p : Path) (t : String)
    (entries : ConfigEntries), s.read p = .ok t →
      Yaml.value? (Text.unifyLineEnds t.toList) = .ok (some (.mapping entries)) →
        Config.IsData (.mapping entries) → (load s p).result = ofConfig (.mapping entries) := by
  intro h
  have hsame := h _ _ _ _ (read_quoted unclosed) value?_unclosed (isData_quotedConfig unclosed)
  have hsome := congrArg (fun x => x.toOption.isSome) hsame
  revert hsome
  decide +kernel

end Resume

end ResumePress
