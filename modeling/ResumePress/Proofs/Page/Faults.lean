import ResumePress.Proofs.Page.Parts
import ResumePress.Proofs.Resume.Assembly
import ResumePress.Proofs.Resume.Reading

/-!
# What goes wrong with a page

A resume and a theme that have been read can still fail to make a page: a number has too many
digits, a node is built of the wrong things, a template lacks an argument, or a part has no
rendering. Nothing that went wrong before is told again then, and no theme is found missing.
-/
namespace ResumePress

open Text (EscapePolicy)
open Page (Wrapper)

/-- A fault of a document, of what it is built of, or of a template. -/
def Fault.IsOfPage : Fault → Prop
  | node _ => True
  | rendering _ => True
  | misuse _ => True
  | template _ => True
  | _ => False

open Fault (IsOfPage)

variable {α : Type}

theorem FailsIn.raise_node (cause : NodeCause) :
    FailsIn IsOfPage (Fault.raise (.node cause) : Except Fault α) := by
  refine .error ?_
  unfold Fault.told
  split <;> trivial

theorem FailsIn.spelled (v : Value) : FailsIn IsOfPage v.spelled :=
  Value.spelled_failsIn (.inl trivial)

/-! ## Building -/

namespace Value

theorem several_failsIn (v : Value) : FailsIn IsOfPage v.several := by
  unfold several
  split
  · exact .ok _
  · exact .error trivial

theorem inWords_failsIn (v : Value) : FailsIn IsOfPage v.inWords :=
  (FailsIn.spelled v).map _

theorem asChild_failsIn (v : Value) : FailsIn IsOfPage v.asChild := by
  unfold asChild
  split
  · exact .ok _
  · split
    · exact .ok _
    · exact .raise_node _

theorem asChildren_failsIn (v : Value) : FailsIn IsOfPage v.asChildren :=
  v.several_failsIn.bind fun _ _ => .mapM fun v _ => v.asChild_failsIn

theorem asColor_failsIn (kind : String) (v : Value) : FailsIn IsOfPage (v.asColor kind) := by
  unfold asColor
  split
  · exact .ok _
  · exact .raise_node _

theorem ofFilling_failsIn (wrap : String → Value) (x : Except Text.TemplateFault String) :
    FailsIn IsOfPage (ofFilling wrap x) := by
  cases x with
  | ok s => exact .ok _
  | error e => exact .error trivial

theorem filled_failsIn (policy : EscapePolicy) (template : Value) (args : List Value) :
    FailsIn IsOfPage (filled policy template args) := by
  unfold filled
  split
  · exact ofFilling_failsIn _ _
  · exact (FailsIn.spelled _).bind fun _ _ => ofFilling_failsIn _ _
  · split
    · exact ofFilling_failsIn _ _
    · exact .error trivial

end Value

namespace Node

theorem percentBarOf_failsIn (percent label : Value) :
    FailsIn IsOfPage (percentBarOf percent label) := by
  refine .map _ ?_
  unfold Percent.ofValue
  split
  · exact .raise_node _
  · split
    · exact .ok _
    · exact .raise_node _

theorem rectangleOf_failsIn (child radius color : Value) :
    FailsIn IsOfPage (rectangleOf child radius color) := by
  refine .bind ?_ fun r _ => (color.asColor_failsIn _).map _
  unfold Radius.ofValue
  split
  · exact .raise_node _
  · split
    · exact .ok _
    · exact .raise_node _

theorem build_failsIn (builder : String) (args : List Value) :
    FailsIn IsOfPage (build builder args) := by
  unfold build
  split
  · exact (Value.asChildren_failsIn _).map _
  · exact (Value.asChildren_failsIn _).map _
  · exact (Value.asChildren_failsIn _).map _
  · exact (Value.asChildren_failsIn _).map _
  · exact (Value.asChildren_failsIn _).map _
  · exact (Value.asChildren_failsIn _).map _
  · exact (Value.asChild_failsIn _).map _
  · exact (Value.asChild_failsIn _).map _
  · exact (Value.asChild_failsIn _).map _
  · exact (Value.inWords_failsIn _).map _
  · exact (Value.inWords_failsIn _).map _
  · exact (Value.inWords_failsIn _).map _
  · exact (Value.asChild_failsIn _).bind fun _ _ => rectangleOf_failsIn _ _ _
  · exact (Value.asChild_failsIn _).map _
  · exact (Value.asChild_failsIn _).map _
  · exact (Value.asChild_failsIn _).map _
  · exact (Value.asChild_failsIn _).bind fun _ _ => (Value.inWords_failsIn _).map _
  · exact (Value.asChild_failsIn _).bind fun _ _ => (Value.asColor_failsIn _ _).map _
  · exact (Value.asChild_failsIn _).bind fun _ _ => (Value.asColor_failsIn _ _).map _
  · exact .error trivial

end Node

namespace Assembly

open Node (build_failsIn)

theorem nameInWords_failsIn (r : Resume) : FailsIn IsOfPage r.nameInWords :=
  (FailsIn.spelled _).bind fun _ _ => (FailsIn.spelled _).bind fun _ _ => .ok _

theorem subheading_failsIn (c : Color) (text : Value) : FailsIn IsOfPage (subheading c text) :=
  (build_failsIn _ _).bind fun _ _ => (build_failsIn _ _).bind fun _ _ =>
    (build_failsIn _ _).bind fun _ _ => build_failsIn _ _

theorem contactLinks_failsIn (c : Contact) : FailsIn IsOfPage (contactLinks c) :=
  (FailsIn.mapM fun _ _ => (build_failsIn _ _).bind fun _ _ => build_failsIn _ _).bind
    fun _ _ => build_failsIn _ _

theorem header_failsIn (r : Resume) : FailsIn IsOfPage (header r) := by
  refine (nameInWords_failsIn r).bind fun _ _ => (build_failsIn _ _).bind fun _ _ =>
    (build_failsIn _ _).bind fun _ _ => (build_failsIn _ _).bind fun _ _ =>
      (subheading_failsIn _ _).bind fun _ _ => (build_failsIn _ _).bind fun _ _ => ?_
  dsimp only
  split
  · exact (FailsIn.ok _).bind fun _ _ => build_failsIn _ _
  · exact ((contactLinks_failsIn _).map _).bind fun _ _ => build_failsIn _ _

theorem skillItem_failsIn (s : Skill) : FailsIn IsOfPage (skillItem s) := by
  unfold skillItem
  split
  · exact build_failsIn _ _
  · exact (build_failsIn _ _).bind fun _ _ =>
      (Node.percentBarOf_failsIn _ _).bind fun _ _ => build_failsIn _ _

theorem skills_failsIn (ss : List Skill) : FailsIn IsOfPage (skills ss) :=
  (subheading_failsIn _ _).bind fun _ _ =>
    (FailsIn.mapM fun s _ => skillItem_failsIn s).bind fun _ _ =>
      (build_failsIn _ _).bind fun _ _ => (build_failsIn _ _).bind fun _ _ => build_failsIn _ _

theorem inWords_failsIn (d : Degree) : FailsIn IsOfPage d.inWords := by
  unfold Degree.inWords
  split
  · exact (FailsIn.spelled _).map _
  · exact .ok _

theorem educationItem_failsIn (policy : EscapePolicy) (e : Education) :
    FailsIn IsOfPage (educationItem policy e) := by
  have harguments : FailsIn IsOfPage (educationArguments e) := by
    unfold educationArguments
    dsimp only
    split
    · exact ((inWords_failsIn _).map _).bind fun _ _ => .ok _
    · exact .ok _
  exact harguments.bind fun _ _ => (Value.filled_failsIn _ _ _).bind fun _ _ => build_failsIn _ _

theorem workItem_failsIn (policy : EscapePolicy) (w : Work) :
    FailsIn IsOfPage (workItem policy w) :=
  (Value.filled_failsIn _ _ _).bind fun _ _ => build_failsIn _ _

theorem historyHeading_failsIn (text : String) : FailsIn IsOfPage (historyHeading text) :=
  (build_failsIn _ _).bind fun _ _ => (build_failsIn _ _).bind fun _ _ => build_failsIn _ _

theorem history_failsIn (policy : EscapePolicy) (education : List Education) (work : List Work) :
    FailsIn IsOfPage (history policy education work) :=
  (historyHeading_failsIn _).bind fun _ _ =>
    (FailsIn.mapM fun e _ => educationItem_failsIn policy e).bind fun _ _ =>
      (build_failsIn _ _).bind fun _ _ => (historyHeading_failsIn _).bind fun _ _ =>
        (FailsIn.mapM fun w _ => workItem_failsIn policy w).bind fun _ _ =>
          (build_failsIn _ _).bind fun _ _ => build_failsIn _ _

theorem document_failsIn (policy : EscapePolicy) (r : Resume) :
    FailsIn IsOfPage (document policy r) :=
  (nameInWords_failsIn r).bind fun _ _ => (header_failsIn r).bind fun _ _ =>
    (build_failsIn _ _).bind fun _ _ => (skills_failsIn _).bind fun _ _ =>
      (build_failsIn _ _).bind fun _ _ => (build_failsIn _ _).bind fun _ _ =>
        (history_failsIn _ _ _).bind fun _ _ => (build_failsIn _ _).bind fun _ _ =>
          (build_failsIn _ _).bind fun _ _ => (build_failsIn _ _).bind fun _ _ =>
            build_failsIn _ _

end Assembly

/-! ## Rendering -/

namespace Page

theorem begins_failsIn (t : PaletteTheme) (n : Node) : FailsIn IsOfPage (n.begins t.dress) := by
  cases n with
  | document cs => exact (FailsIn.spelled _).bind fun _ _ => (FailsIn.ok _).bind fun _ _ => .ok _
  | link c url => exact (FailsIn.spelled _).map _
  | _ => exact .ok _

theorem ends_failsIn (t : PaletteTheme) (n : Node) : FailsIn IsOfPage (n.ends t.dress) := by
  cases n with
  | document cs => exact (FailsIn.ok _).bind fun _ _ => (FailsIn.spelled _).bind fun _ _ => .ok _
  | rectangle c r color => exact (FailsIn.spelled _).map _
  | _ => exact .ok _

theorem placementRule_failsIn (rule? : String → Option String) (v : Value) :
    FailsIn IsOfPage (placementRule rule? v) := by
  unfold placementRule
  split
  · exact .ok _
  · exact .error trivial

theorem wrapper_failsIn (t : PaletteTheme) (policy : EscapePolicy) (n : Node) :
    FailsIn IsOfPage (n.wrapper t.dress policy) := by
  cases n with
  | aligned c h v =>
    exact (placementRule_failsIn _ h).bind fun _ _ => (placementRule_failsIn _ v).bind fun _ _ =>
      .ok _
  | fadeIn direction =>
    refine .error ?_
    unfold fadeInFault
    split <;> trivial
  | _ => exact .ok _

variable {t : PaletteTheme} {policy : EscapePolicy}

theorem renderAll_failsIn {vs : List Value}
    (h : ∀ v ∈ vs, FailsIn IsOfPage (renderValue t.toTheme policy v)) :
    FailsIn IsOfPage (renderAll t.toTheme policy vs) := by
  induction vs with
  | nil => exact .ok []
  | cons v vs ih =>
    rw [List.forall_mem_cons] at h
    exact h.1.bind fun _ _ => (ih h.2).bind fun _ _ => .ok _

theorem renderContents_failsIn {n : Node} (w : Wrapper)
    (h : ∀ v ∈ n.children, FailsIn IsOfPage (renderValue t.toTheme policy v)) :
    FailsIn IsOfPage (renderContents t.toTheme policy t.dress n w) := by
  unfold renderContents
  split
  · exact ((FailsIn.spelled _).map _).map _
  · next vs hc =>
    rw [Node.children, hc] at h
    exact (renderAll_failsIn h).bind fun _ _ => (ends_failsIn t n).bind fun _ _ => .ok _

theorem renderValue_failsIn (t : PaletteTheme) (policy : EscapePolicy) (v : Value) :
    FailsIn IsOfPage (renderValue t.toTheme policy v) := by
  induction v using Value.parts.induct with
  | case1 n ih =>
    rw [renderValue, renderNode_eq t.wears_dress]
    exact (begins_failsIn t n).bind fun _ _ => (wrapper_failsIn t policy n).bind fun w _ =>
      renderContents_failsIn w ih
  | case2 v hv =>
    cases v with
    | node n => exact (hv n rfl).elim
    | _ => exact .error trivial

/-- What goes wrong with the page of a resume is a fault of the page. -/
theorem ofResume_failsIn (t : PaletteTheme) (p q : EscapePolicy) (r : Resume) :
    FailsIn IsOfPage (ofResume t p q r) :=
  (Assembly.document_failsIn p r).bind fun n _ => renderValue_failsIn t q (.node n)

end Page

end ResumePress
