import KubeHcl.Collection
import KubeHcl.Config
import KubeHcl.Proofs.TemplateReading
import KubeHcl.Proofs.Tokens
import KubeHcl.Proofs.Trees

/-!
# The value of a manifest

A literal is its own value, a heredoc has the text that its template reads as, and a reference has
what it leads to. When the expression of a document has placeholders in place of tokens, its value
is the document with every text read as what it stands for.
-/

namespace KubeHcl

namespace Hcl.Expression

mutual

/-- The value of an expression, with the values of references given. Expressions that no document is
written as have none. -/
def value? (lookup : String → List String → Option Tree) : Expression → Option Tree
  | .null => some .null
  | .bool b => some (.bool b)
  | .int n => some (.int n)
  | .float x => some (.float x)
  | .text s => some (.text s)
  | .array items => (valueItems? lookup items).map .seq
  | .object entries => (valueEntries? lookup entries).map .map
  | .heredoc block => some (.text (String.ofList (readTemplate block.template.toList)))
  | .attributes root path => lookup root path
  | .paren inner => value? lookup inner
  | _ => none

/-- The values of the items of an array. -/
def valueItems? (lookup : String → List String → Option Tree) :
    List Expression → Option (List Tree)
  | [] => some []
  | item :: rest => do
    let value ← value? lookup item
    let values ← valueItems? lookup rest
    pure (value :: values)

/-- The values of the entries of an object, whose keys are text. -/
def valueEntries? (lookup : String → List String → Option Tree) :
    List (Expression × Expression) → Option (List (String × Tree))
  | [] => some []
  | (.text key, value) :: rest => do
    let value ← value? lookup value
    let entries ← valueEntries? lookup rest
    pure ((key, value) :: entries)
  | _ => none

end

end Hcl.Expression

/-- What keys lead to, one after the other. -/
def Tree.follow? : List String → Tree → Option Tree
  | [], t => some t
  | key :: keys, t => (t.get? key).bind (follow? keys)

/-- What a reference leads to in the documents of a collection: the resource of its name, and in the
document of that, which is the value of the manifest attribute, what its keys lead to. -/
def Collection.lookup (config : Config) (c : Collection) (root : String) :
    List String → Option Tree
  | name :: field :: keys =>
    if root = config.resourceType ∧ field = config.manifestAttribute then
      (c.resources.find? fun r => Naming.identifier r = name).bind fun r => r.tree.follow? keys
    else none
  | _ => none

namespace Placeholders

open Hcl (Expression)

variable {placeholders : Placeholders} {lookup : String → List String → Option Tree}
  {meaning : String → String}

mutual

/-- If every text has the value it stands for after placeholders were put in place of tokens, then
so has every document. -/
theorem value?_substitute
    (htext : ∀ s, (placeholders.replaceText s).value? lookup = some (.text (meaning s)))
    (t : Tree) :
    (placeholders.substitute (.ofTree t)).value? lookup = some (t.mapTexts meaning) := by
  cases t with
  | text s => exact htext s
  | seq items =>
    rw [Expression.ofTree, substitute, Expression.value?, valueItems?_substitute htext items]
    rfl
  | map entries =>
    rw [Expression.ofTree, substitute, Expression.value?, valueEntries?_substitute htext entries]
    rfl
  | _ => rfl

theorem valueItems?_substitute
    (htext : ∀ s, (placeholders.replaceText s).value? lookup = some (.text (meaning s)))
    (items : List Tree) :
    Expression.valueItems? lookup (placeholders.substituteItems (Expression.ofItems items)) =
      some (Tree.mapTextsItems meaning items) := by
  cases items with
  | nil => rfl
  | cons item rest =>
    rw [Expression.ofItems, substituteItems, Expression.valueItems?, value?_substitute htext item,
      valueItems?_substitute htext rest]
    rfl

theorem valueEntries?_substitute
    (htext : ∀ s, (placeholders.replaceText s).value? lookup = some (.text (meaning s)))
    (entries : List (String × Tree)) :
    Expression.valueEntries? lookup
        (placeholders.substituteEntries (Expression.ofEntries entries)) =
      some (Tree.mapTextsEntries meaning entries) := by
  cases entries with
  | nil => rfl
  | cons entry rest =>
    obtain ⟨key, value⟩ := entry
    rw [Expression.ofEntries, substituteEntries, Expression.valueEntries?,
      value?_substitute htext value, valueEntries?_substitute htext rest]
    rfl

end

end Placeholders

end KubeHcl
