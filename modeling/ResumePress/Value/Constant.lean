import ResumePress.Value.Basic

/-!
# Constant values

Lists and mappings can change, so they cannot be looked up in a table, and neither can anything that
holds one of them.
-/
namespace ResumePress

mutual

/-- Whether nothing in the value can change. -/
def Value.isConstant : Value → Bool
  | .list _ => false
  | .mapping _ => false
  | .tuple items => allConstant items
  | .record _ fields => allConstant fields
  | .node n => n.isConstant
  | _ => true

/-- A node is constant if all its fields are. -/
def Node.isConstant : Node → Bool
  | .document children => allConstant children
  | .container children => allConstant children
  | .aligned child horizontal vertical =>
    child.isConstant && horizontal.isConstant && vertical.isConstant
  | .row children => allConstant children
  | .column children => allConstant children
  | .text t => t.isConstant
  | .title t => t.isConstant
  | .sectionTitle t => t.isConstant
  | .orderedList items => allConstant items
  | .unorderedList items => allConstant items
  | .percentBar _ label => label.isConstant
  | .rectangle child _ _ => child.isConstant
  | .card child => child.isConstant
  | .italics child => child.isConstant
  | .bold child => child.isConstant
  | .link child url => child.isConstant && url.isConstant
  | .foreground child _ => child.isConstant
  | .background child _ => child.isConstant
  | .fadeIn direction => direction.isConstant

def allConstant : List Value → Bool
  | [] => true
  | v :: vs => v.isConstant && allConstant vs

end

end ResumePress
