import SvdGen.Indent

/-! What `ElementTree.write` writes for a tree: `_serialize_xml` with `short_empty_elements`
on, as the sequence of its `write` calls. The layout of an indented tree is the spec's: every
child is preceded by the indentation of its depth and every end tag of a parent by its own
(`indentTree_indents`). Escaping is left to the writer: it leaves the indentation alone. -/
namespace SvdGen

open Element

/-- One `write` of the serializer. -/
inductive Token where
  /-- `<?xml version='1.0' encoding='...'?>` and a newline. -/
  | declaration (encoding : String)
  /-- `<tag k="v" ...>`. -/
  | startTag (tag : String) (attrib : List (String × String))
  /-- `</tag>`. -/
  | endTag (tag : String)
  /-- `<tag k="v" ... />`. -/
  | emptyTag (tag : String) (attrib : List (String × String))
  /-- `<!--text-->`. -/
  | comment (text : String)
  /-- Character data. -/
  | text (text : String)
  deriving Repr, DecidableEq

/-- `if text: write(_escape_cdata(text))`. -/
def writeText : Option String → List Token
  | some text => if text = "" then [] else [.text text]
  | none => []

mutual
/-- `_serialize_xml`: a comment as `<!--text-->`, an element as its start tag, text, children
and end tag, or as an empty-element tag when it has neither text nor children; then the
tail. -/
def serialize : Element → List Token
  | ⟨.comment, _, text, tail, _⟩ => .comment (text.getD "None") :: writeText tail
  | ⟨.name tag, attrib, text, tail, children⟩ =>
    (if text.any (· != "") || children.length != 0 then
      .startTag tag attrib :: writeText text ++ serializeChildren children ++ [.endTag tag]
    else [.emptyTag tag attrib]) ++ writeText tail

/-- `for e in elem: _serialize_xml(write, e, ...)`. -/
def serializeChildren : List Element → List Token
  | [] => []
  | c :: cs => serialize c ++ serializeChildren cs
end

mutual
/-- The spec's serialized form of a node at depth `d` of a tree indented by `s`, without its
tail: a parent's children each preceded by the indentation of their depth, its end tag by its
own; a leaf or comment with its text stripped. -/
def layout (s : String) : Nat → Element → List Token
  | d, ⟨.comment, _, text, _, children⟩ =>
    [.comment ((if children.isEmpty then text.map strip else some (ind s (d + 1))).getD "None")]
  | _, ⟨.name tag, attrib, text, _, []⟩ =>
    if (text.map strip).any (· != "") then
      .startTag tag attrib :: writeText (text.map strip) ++ [.endTag tag]
    else [.emptyTag tag attrib]
  | d, ⟨.name tag, attrib, _, _, c :: cs⟩ =>
    .startTag tag attrib :: layoutChildren s d (c :: cs) ++ writeText (some (ind s d)) ++
      [.endTag tag]

/-- The children of a node at depth `d`, each preceded by the indentation of depth `d + 1`. -/
def layoutChildren (s : String) : Nat → List Element → List Token
  | _, [] => []
  | d, c :: cs => .text (ind s (d + 1)) :: layout s (d + 1) c ++ layoutChildren s d cs
end

theorem ind_succ_ne_empty (s : String) (d : Nat) : ind s (d + 1) ≠ "" := fun h => by
  have := congrArg String.length h
  simp [ind, Nat.mul_succ] at this

theorem writeText_ind_succ (s : String) (d : Nat) :
    writeText (some (ind s (d + 1))) = [.text (ind s (d + 1))] := by
  simp [writeText, ind_succ_ne_empty]

mutual
/-- The serialized indented node is the spec's layout followed by its tail. -/
theorem serialize_reindent (s : String) :
    ∀ (d : Nat) (t : String) (e : Element), serialize (reindent s d t e) = layout s d e ++ writeText (some t)
  | d, t, ⟨.comment, _, _, _, _⟩ => rfl
  | d, t, ⟨.name _, _, _, _, []⟩ => by simp [reindent, reindentChildren, serialize, serializeChildren, layout]
  | d, t, ⟨.name _, _, _, _, c :: cs⟩ => by
    have hcs := serializeChildren_reindent s d (c :: cs) (List.cons_ne_nil _ _)
    simp only [reindent, serialize, layout, List.isEmpty_cons, Bool.false_eq_true, ite_false,
      writeText_ind_succ] at hcs ⊢
    simp [hcs, ind_succ_ne_empty]

/-- The indented children of a node at depth `d`, after the parent's text. -/
theorem serializeChildren_reindent (s : String) : ∀ (d : Nat) (cs : List Element), cs ≠ [] →
    .text (ind s (d + 1)) :: serializeChildren (reindentChildren s d cs) =
      layoutChildren s d cs ++ writeText (some (ind s d))
  | _, [], h => absurd rfl h
  | d, [c], _ => by
    simp [reindentChildren, serializeChildren, layoutChildren, serialize_reindent s (d + 1) _ c]
  | d, c :: c' :: cs, _ => by
    have hcs := serializeChildren_reindent s d (c' :: cs) (List.cons_ne_nil _ _)
    simp only [reindentChildren, ne_eq, reduceCtorEq, not_false_eq_true, serializeChildren,
      layoutChildren, serialize_reindent s (d + 1) _ c, writeText_ind_succ] at hcs ⊢
    simpa using hcs
end

/-- `indent_tree(T, s)` leaves the tags, attributes and children of every node in place,
strips the text of every childless node, gives every parent at depth `d` the text `ind s
(d + 1)` and every node at depth `d` the tail `ind s d`, but a last child, which takes its
parent's; so the serialized tree writes every child at depth `d` after `ind s d`, and every
end tag of a parent at depth `d` after `ind s d`. -/
theorem indentTree_indents (e : Element) (s : String) :
    indentTree e s = reindent s 0 s e ∧ serialize (indentTree e s) = layout s 0 e ++ writeText (some s) := by
  have h := indentTree_eq_reindent s e 0
  rw [ind_zero] at h
  exact ⟨h, h ▸ serialize_reindent s 0 s e⟩

end SvdGen
