import SvdGen.Hjson

/-! The `xml.etree.ElementTree` elements the converter builds, and its two node builders
`svd_node` and `extend_node`. An element is a tree: the converter never appends one node
under two parents, so sharing is not modelled. -/
namespace SvdGen

/-- An element's tag: a name, or the `ET.Comment` factory that marks a comment. -/
inductive Tag where
  | name (name : String)
  | comment
  deriving Repr, DecidableEq

/-- `ET.Element`: tag, attributes, the text after the opening tag, the tail after the
closing tag, and the children in order. -/
structure Element where
  tag : Tag
  attrib : List (String × String)
  text : Option String
  tail : Option String
  children : List Element
  deriving Repr

namespace Element

/-- `ET.Element(tag)`. -/
def new (tag : String) : Element := ⟨.name tag,[],none,none,[]⟩

/-- `ET.Comment(text)`. -/
def comment (text : String) : Element := ⟨.comment,[],some text,none,[]⟩

/-- A text child as `svd_node` makes one: `ET.Element(tag)` with `text = str(value)`. -/
def leaf (tag value : String) : Element := ⟨.name tag,[],some value,none,[]⟩

/-- `element.find(tag)`: the first child with that tag. -/
def find (e : Element) (tag : String) : Option Element := e.children.find? (·.tag = .name tag)

/-- The text of the first child with that tag. -/
def findText (e : Element) (tag : String) : Option String := (e.find tag).bind (·.text)

/-- The children with that tag, in order. -/
def findAll (e : Element) (tag : String) : List Element := e.children.filter (·.tag = .name tag)

mutual
/-- Every node of a tree, the root first, in document order. -/
def nodes : Element → List Element
  | e@⟨_,_,_,_,children⟩ => e :: nodesList children

/-- Every node of a list of trees, in document order. -/
def nodesList : List Element → List Element
  | [] => []
  | c :: cs => nodes c ++ nodesList cs
end

@[simp] theorem nodesList_nil : nodesList [] = [] := rfl
@[simp] theorem nodesList_cons (c : Element) (cs : List Element) :
    nodesList (c :: cs) = c.nodes ++ nodesList cs := rfl
@[simp] theorem nodesList_append (cs ds : List Element) :
    nodesList (cs ++ ds) = nodesList cs ++ nodesList ds := by
  induction cs with
  | nil => rfl
  | cons c cs ih => simp [ih]

theorem nodes_eq (e : Element) : e.nodes = e :: nodesList e.children := by
  cases e; rfl

theorem mem_nodesList {n : Element} {cs : List Element} :
    n ∈ nodesList cs ↔ ∃ c ∈ cs, n ∈ c.nodes := by
  induction cs with
  | nil => simp
  | cons c cs ih => simp [ih]

@[simp] theorem leaf_with_text (tag a b : String) :
    ({ leaf tag a with text := some b } : Element) = leaf tag b := rfl

@[simp] theorem leaf_nodes (tag value : String) : (leaf tag value).nodes = [leaf tag value] := rfl
@[simp] theorem comment_nodes (text : String) : (comment text).nodes = [comment text] := rfl

end Element

open Element

/-- `svd_node(element, **texts)`: one text child per keyword whose value is not `None`,
appended in keyword order after the children `element` already has. The values arrive
already passed through `str`. -/
def svdNode (element : Element) (texts : List (String × Option String)) : Element :=
  { element with children := element.children ++ texts.filterMap fun t => t.2.map (leaf t.1) }

/-- `extend_node(element, *elements)`. -/
def extendNode (element : Element) (elements : List Element) : Element :=
  { element with children := element.children ++ elements }

@[simp] theorem svdNode_tag (e : Element) (texts : List (String × Option String)) :
    (svdNode e texts).tag = e.tag := rfl
@[simp] theorem svdNode_text (e : Element) (texts : List (String × Option String)) :
    (svdNode e texts).text = e.text := rfl
@[simp] theorem svdNode_tail (e : Element) (texts : List (String × Option String)) :
    (svdNode e texts).tail = e.tail := rfl
@[simp] theorem svdNode_attrib (e : Element) (texts : List (String × Option String)) :
    (svdNode e texts).attrib = e.attrib := rfl
@[simp] theorem svdNode_children (e : Element) (texts : List (String × Option String)) :
    (svdNode e texts).children = e.children ++ texts.filterMap fun t => t.2.map (leaf t.1) := rfl
@[simp] theorem extendNode_tag (e : Element) (es : List Element) : (extendNode e es).tag = e.tag := rfl
@[simp] theorem extendNode_text (e : Element) (es : List Element) : (extendNode e es).text = e.text := rfl
@[simp] theorem extendNode_tail (e : Element) (es : List Element) : (extendNode e es).tail = e.tail := rfl
@[simp] theorem extendNode_attrib (e : Element) (es : List Element) :
    (extendNode e es).attrib = e.attrib := rfl
@[simp] theorem extendNode_children (e : Element) (es : List Element) :
    (extendNode e es).children = e.children ++ es := rfl
@[simp] theorem new_tag (tag : String) : (new tag).tag = .name tag := rfl
@[simp] theorem new_text (tag : String) : (new tag).text = none := rfl
@[simp] theorem new_tail (tag : String) : (new tag).tail = none := rfl
@[simp] theorem new_attrib (tag : String) : (new tag).attrib = [] := rfl
@[simp] theorem new_children (tag : String) : (new tag).children = [] := rfl

theorem find?_leaves (texts : List (String × Option String)) (key : String) :
    (texts.filterMap fun t => t.2.map (leaf t.1)).find? (·.tag = .name key) =
      ((texts.filter (·.1 = key)).findSome? (·.2)).map (leaf key) := by
  induction texts with
  | nil => rfl
  | cons t texts ih =>
    obtain ⟨k, _ | v⟩ := t
    · by_cases h : k = key <;> simp [h, ih, List.filter_cons]
    · by_cases h : k = key
      · subst h; simp [leaf, List.filter_cons]
      · simp [leaf, h, ih, List.filter_cons]

/-- `svd_node(tag, **texts).find(key)`: the text child of the keyword `key`, if it has a value. -/
theorem find_svdNode_new (tag key : String) (texts : List (String × Option String)) :
    (svdNode (new tag) texts).find key = ((texts.filter (·.1 = key)).findSome? (·.2)).map (leaf key) :=
  find?_leaves texts key

/-- The text children `svd_node` appends come after those already there. -/
theorem find_svdNode_of_find {e x : Element} {texts : List (String × Option String)} {key : String}
    (h : e.find key = some x) : (svdNode e texts).find key = some x := by
  simp only [find, svdNode_children, List.find?_append] at h ⊢
  rw [h]
  rfl

theorem find_extendNode (e : Element) (es : List Element) (key : String) :
    (extendNode e es).find key = (e.find key).or (es.find? (·.tag = .name key)) := by
  simp [find, List.find?_append]

/-- A property of every node of a tree. -/
def Every (P : Element → Prop) (e : Element) : Prop := ∀ n ∈ e.nodes, P n

section Every

variable {P : Element → Prop}

theorem every_iff {e : Element} : Every P e ↔ P e ∧ ∀ c ∈ e.children, Every P c := by
  simp only [Every, nodes_eq e, List.mem_cons, mem_nodesList]
  constructor
  · intro h
    exact ⟨h e (.inl rfl), fun c hc n hn => h n (.inr ⟨c, hc, hn⟩)⟩
  · rintro ⟨hr, hc⟩ n (rfl | ⟨c, hmem, hn⟩)
    exacts [hr, hc c hmem n hn]

@[simp] theorem every_leaf {tag value : String} : Every P (leaf tag value) ↔ P (leaf tag value) := by
  simp [Every]

@[simp] theorem every_comment {text : String} : Every P (comment text) ↔ P (comment text) := by
  simp [Every]

theorem every_extendNode {e : Element} {es : List Element} (hroot : P (extendNode e es))
    (he : ∀ c ∈ e.children, Every P c) (hes : ∀ c ∈ es, Every P c) : Every P (extendNode e es) := by
  refine every_iff.2 ⟨hroot, ?_⟩
  simp only [extendNode_children, List.mem_append]
  rintro c (hc | hc)
  exacts [he c hc, hes c hc]

theorem every_svdNode {e : Element} {texts : List (String × Option String)}
    (hroot : P (svdNode e texts)) (he : ∀ c ∈ e.children, Every P c)
    (hleaf : ∀ t ∈ texts, ∀ v, t.2 = some v → P (leaf t.1 v)) : Every P (svdNode e texts) := by
  refine every_extendNode hroot he fun c hc => ?_
  obtain ⟨t, ht, hc⟩ := List.mem_filterMap.1 hc
  obtain ⟨v, hv, rfl⟩ := Option.map_eq_some'.1 hc
  exact every_leaf.2 (hleaf t ht v hv)

theorem Every.mono {Q : Element → Prop} {e : Element} (h : Every P e) (hPQ : ∀ n, P n → Q n) :
    Every Q e :=
  fun n hn => hPQ n (h n hn)

end Every

/-- The invariant `indent_tree` relies on: a node has children or text, never both. -/
def LeafOrParent (e : Element) : Prop := e.children = [] ∨ e.text = none

/-- A node as the builders leave it: a leaf or a parent, and no tail yet. -/
def FreshNode (e : Element) : Prop := LeafOrParent e ∧ e.tail = none

theorem freshNode_leaf (tag value : String) : FreshNode (leaf tag value) := ⟨.inl rfl, rfl⟩
theorem freshNode_comment (text : String) : FreshNode (comment text) := ⟨.inl rfl, rfl⟩

/-- A text-less node without tail is fresh whatever its children. -/
theorem freshNode_of_text {e : Element} (htext : e.text = none) (htail : e.tail = none) :
    FreshNode e := ⟨.inr htext, htail⟩

end SvdGen
