import SvdGen.Device

/-! `indent_tree`, which pretty-prints a tree in place: a parent's text becomes the indentation
of its first child, a leaf's text is stripped, every tail becomes the indentation of what
follows, and a parent gives its last child its own indentation as tail. `reindent` says the
same of a node at a given depth, and the two agree (`indentTree_eq_reindent`). -/
namespace SvdGen

open Element

/-- `last.tail = indent`: the tail of the last element of a list. -/
def setLastTail (tail : String) : List Element → List Element
  | [] => []
  | [c] => [{ c with tail := some tail }]
  | c :: cs => c :: setLastTail tail cs

mutual
/-- `indent_tree`. -/
def indentTree : Element → String → Element
  | ⟨tag, attrib, text, _, children⟩, indent =>
    let isParent := children.length ≠ 0
    let text := if isParent then some (indent ++ "  ") else text.map strip
    let children := indentChildren children (indent ++ "  ")
    ⟨tag, attrib, text, some indent, if isParent then setLastTail indent children else children⟩

/-- The loop of `indent_tree` over the children. -/
def indentChildren : List Element → String → List Element
  | [], _ => []
  | c :: cs, indent => indentTree c indent :: indentChildren cs indent
end

/-- The indentation of a node at depth `d` of a tree whose root is indented by `s`. -/
def ind (s : String) (d : Nat) : String := s ++ String.mk (List.replicate (2 * d) ' ')

@[simp] theorem ind_zero (s : String) : ind s 0 = s := by simp [ind]

theorem ind_append (s : String) (d : Nat) : ind s d ++ "  " = ind s (d + 1) := by
  simp only [ind, String.append_assoc]
  congr 1
  apply String.ext
  simp [Nat.mul_succ, List.replicate_add]

mutual
/-- The indented tree the spec describes, of a node at depth `d` whose tail is `tail`: tags,
attributes and children kept, a leaf's text stripped, a parent's text the indentation of its
children; each child but the last has the indentation of the next one as tail, the last one
its parent's. -/
def reindent (s : String) : Nat → String → Element → Element
  | d, tail, ⟨tag, attrib, text, _, children⟩ =>
    ⟨tag, attrib, if children.isEmpty then text.map strip else some (ind s (d + 1)), some tail,
      reindentChildren s d children⟩

/-- The children of a node at depth `d`, indented. -/
def reindentChildren (s : String) : Nat → List Element → List Element
  | _, [] => []
  | d, [c] => [reindent s (d + 1) (ind s d) c]
  | d, c :: cs => reindent s (d + 1) (ind s (d + 1)) c :: reindentChildren s d cs
end

@[simp] theorem reindent_with_tail (s : String) (d : Nat) (t t' : String) (e : Element) :
    ({ reindent s d t e with tail := some t' } : Element) = reindent s d t' e := by
  obtain ⟨⟩ := e
  rfl

mutual
/-- `indent_tree` on a node at depth `d` is the spec's indented node, its tail its own
indentation until its parent says otherwise. -/
theorem indentTree_eq_reindent (s : String) :
    ∀ (e : Element) (d : Nat), indentTree e (ind s d) = reindent s d (ind s d) e
  | ⟨_, _, _, _, []⟩, _ => rfl
  | ⟨_, _, _, _, c :: cs⟩, d => by
    simp only [indentTree, reindent, List.length_cons, ne_eq, Nat.add_one_ne_zero,
      not_false_eq_true, ite_true, List.isEmpty_cons, Bool.false_eq_true, ite_false, ind_append]
    rw [indentChildren_eq_reindent s (c :: cs) d (List.cons_ne_nil _ _)]

/-- The loop over the children, followed by the parent's fix of the last tail. -/
theorem indentChildren_eq_reindent (s : String) : ∀ (cs : List Element) (d : Nat), cs ≠ [] →
    setLastTail (ind s d) (indentChildren cs (ind s (d + 1))) = reindentChildren s d cs
  | [], _, h => absurd rfl h
  | [c], d, _ => by
    rw [indentChildren, indentChildren, indentTree_eq_reindent s c (d + 1)]
    simp only [setLastTail, reindent_with_tail, reindentChildren]
  | c :: c' :: cs, d, _ => by
    have hcs := indentChildren_eq_reindent s (c' :: cs) d (List.cons_ne_nil _ _)
    rw [indentChildren] at hcs
    rw [indentChildren, indentChildren, indentTree_eq_reindent s c (d + 1)]
    simp [setLastTail, hcs, reindentChildren]
end

theorem reindentChildren_cons_cons (s : String) (d : Nat) (c c' : Element) (cs : List Element) :
    reindentChildren s d (c :: c' :: cs) =
      reindent s (d + 1) (ind s (d + 1)) c :: reindentChildren s d (c' :: cs) := rfl

theorem reindentChildren_isEmpty (s : String) (d : Nat) (cs : List Element) :
    (reindentChildren s d cs).isEmpty = cs.isEmpty := by
  rcases cs with _ | ⟨c, _ | ⟨c', cs⟩⟩ <;> rfl

mutual
/-- Indenting an indented node again changes nothing but its tail. -/
theorem reindent_reindent (s : String) :
    ∀ (d : Nat) (t t' : String) (e : Element), reindent s d t (reindent s d t' e) = reindent s d t e
  | d, t, t', ⟨tag, attrib, text, tail, children⟩ => by
    simp only [reindent, reindentChildren_isEmpty, reindentChildren_reindentChildren s d children]
    cases children.isEmpty
    · rfl
    · cases text <;> simp [strip_strip]

/-- Indenting the children of a node again changes nothing. -/
theorem reindentChildren_reindentChildren (s : String) : ∀ (d : Nat) (cs : List Element),
    reindentChildren s d (reindentChildren s d cs) = reindentChildren s d cs
  | _, [] => rfl
  | d, [c] => by simp only [reindentChildren, reindent_reindent s (d + 1) _ _ c]
  | d, c :: c' :: cs => by
    obtain ⟨y, rest, hyr⟩ : ∃ y rest, reindentChildren s d (c' :: cs) = y :: rest :=
      List.exists_cons_of_ne_nil fun h => by simpa [h] using reindentChildren_isEmpty s d (c' :: cs)
    rw [reindentChildren_cons_cons, hyr, reindentChildren_cons_cons, ← hyr,
      reindentChildren_reindentChildren s d (c' :: cs), reindent_reindent s (d + 1) _ _ c]
end

/-- `indent_tree` is idempotent: pretty-printing a pretty-printed tree again leaves it as it is. -/
theorem indentTree_indentTree (e : Element) (s : String) :
    indentTree (indentTree e s) s = indentTree e s := by
  have h0 : ∀ e, indentTree e s = reindent s 0 s e := fun e => by
    simpa using indentTree_eq_reindent s e 0
  rw [h0 e, h0, reindent_reindent]

/-! ### No text is lost -/

/-- The non-whitespace characters of a node's text and of its tail. -/
def Element.content (e : Element) : List Char × List Char :=
  (nonSpace (e.text.getD ""), nonSpace (e.tail.getD ""))

theorem nonSpace_ind {s : String} (hs : nonSpace s = []) (d : Nat) : nonSpace (ind s d) = [] := by
  rw [ind, nonSpace_append, hs]
  simp [nonSpace, String.toList, isSpace, List.filter_eq_nil_iff]

section Content

variable {s : String} (hs : nonSpace s = [])
include hs

mutual
/-- Indenting a fresh tree changes no node's non-whitespace text or tail. -/
theorem reindent_content : ∀ (d : Nat) (t : String) (e : Element), nonSpace t = [] →
    Every FreshNode e → (reindent s d t e).nodes.map Element.content = e.nodes.map Element.content
  | d, t, ⟨tag, attrib, text, tail, children⟩, ht, he => by
    obtain ⟨⟨hleaf, htail⟩, hcs⟩ := every_iff.1 he
    simp only at hleaf htail hcs
    subst htail
    simp only [reindent, nodes_eq, List.map_cons]
    rw [reindentChildren_content d children hcs]
    simp only [Element.content, Option.getD_none, Option.getD_some, ht, nonSpace_empty]
    cases children with
    | nil => cases text <;> simp
    | cons c cs =>
      obtain rfl : text = none := hleaf.resolve_left (List.cons_ne_nil _ _)
      simp [nonSpace_ind hs]

/-- The children of a node at depth `d`, indented, keep their contents. -/
theorem reindentChildren_content : ∀ (d : Nat) (cs : List Element), (∀ c ∈ cs, Every FreshNode c) →
    (nodesList (reindentChildren s d cs)).map Element.content = (nodesList cs).map Element.content
  | _, [], _ => rfl
  | d, [c], hc => by
    simp only [reindentChildren, nodesList_cons, nodesList_nil, List.append_nil]
    exact reindent_content (d + 1) _ c (nonSpace_ind hs d) (hc c (List.mem_singleton_self c))
  | d, c :: c' :: cs, hc => by
    have hcs := reindentChildren_content d (c' :: cs) fun x hx => hc x (List.mem_cons_of_mem _ hx)
    simp only [reindentChildren, ne_eq, reduceCtorEq, not_false_eq_true, nodesList_cons,
      List.map_append] at hcs ⊢
    rw [hcs, reindent_content (d + 1) _ c (nonSpace_ind hs (d + 1)) (hc c (List.mem_cons_self _ _))]
end

end Content

end SvdGen
