import SvdGen.ReadIndent

/-! Reading the written document back. `ElementTree.fromstring` on what `write_svd` writes
runs `XMLParser`, which hands each piece of markup to the default `TreeBuilder`: a state
machine with a stack of open elements and a buffer of character data, which drops comments
and the declaration. `Builder` is that machine over the serializer's tokens; the characters
between the two, escaping and expat's tokenizer, are `Markup`, `Lex` and `Namespace`.

`parseTokens_writeSvd`: the document parses back to the tree that was written, each comment
dropped and its tail joined to the character data before it, and every empty text or tail
absent (`parsedNode`). -/
namespace SvdGen

open Element

/-- `TreeBuilder`'s state: the open elements, innermost first (`_elem`); the character data
not yet flushed (`_data`); whether it is the tail of the element closed last (`_tail`); and
the root, once it has closed. -/
structure Builder where
  stack : List Element
  data : List String
  tail : Bool
  root : Option Element

/-- `"".join(self._data)`, when there is data. -/
def joinData (data : List String) : Option String :=
  if data = [] then none else some (String.join data)

namespace Builder

/-- `_flush`: the data becomes the text of the element opened last (before the first one it
is dropped), or the tail of the element closed last, which is the last child of the
innermost open element, or the root. -/
def flush (b : Builder) : Builder :=
  match joinData b.data, b.tail, b.stack with
  | none, _, _ => b
  | some text, true, top :: rest =>
    ⟨{ top with children := setLastTail text top.children } :: rest, [], true, b.root⟩
  | some text, true, [] => ⟨[], [], true, b.root.map fun root => { root with tail := some text }⟩
  | some text, false, top :: rest => ⟨{ top with text := some text } :: rest, [], false, b.root⟩
  | some _, false, [] => ⟨[], [], false, b.root⟩

/-- `start(tag, attrs)`: flush, then open a new element. -/
def start (b : Builder) (tag : String) (attrib : List (String × String)) : Builder :=
  ⟨⟨.name tag, attrib, none, none, []⟩ :: b.flush.stack, b.flush.data, false, b.flush.root⟩

/-- Where a closed element goes: after the children of the innermost open element, or to
the root; a second root is expat's "junk after document element". -/
def attach (b : Builder) (e : Element) : Option Builder :=
  match b.stack with
  | p :: rest => some ⟨{ p with children := p.children ++ [e] } :: rest, b.data, true, b.root⟩
  | [] => if b.root.isNone then some ⟨[], b.data, true, some e⟩ else none

/-- `end(tag)`: flush, then close the element opened last, which must have that tag. -/
def endElement (b : Builder) (tag : String) : Option Builder :=
  match b.flush.stack with
  | e :: rest => if e.tag = .name tag then attach ⟨rest, b.flush.data, b.flush.tail, b.flush.root⟩ e
    else none
  | [] => none

/-- What the parser does with one piece of the document; comments and the declaration are
not kept. -/
def feed (b : Builder) : Token → Option Builder
  | .declaration _ | .comment _ => some b
  | .startTag tag attrib => some (b.start tag attrib)
  | .endTag tag => b.endElement tag
  | .emptyTag tag attrib => (b.start tag attrib).endElement tag
  | .text text => some ⟨b.stack, b.data ++ [text], b.tail, b.root⟩

/-- The builder `XMLParser` starts with. -/
def init : Builder := ⟨[], [], false, none⟩

end Builder

/-- `ElementTree.fromstring`: feed the document, then `close()`, which needs every element
closed and a root. -/
def parseTokens (tokens : List Token) : Option Element := do
  let b ← tokens.foldlM Builder.feed Builder.init
  if b.stack.isEmpty then b.root else none

/-! ### What a serialized tree parses back to -/

/-- The character data `_serialize_xml` writes for a text or a tail. -/
def dataOf : Option String → List String
  | some text => if text = "" then [] else [text]
  | none => []

mutual
/-- What the builder makes of a serialized element followed by the data `tail`: its comments
dropped, the character data of each run between element children joined into the text or
tail before it. -/
def parsedNode (tail : Option String) : Element → Element
  | ⟨tag, attrib, text, _, children⟩ =>
    ⟨tag, attrib, joinData (dataOf text ++ (parsedChildren children).1), tail,
      (parsedChildren children).2⟩

/-- The data before the first element child, and the element children, each with the data
after it as its tail. -/
def parsedChildren : List Element → List String × List Element
  | [] => ([], [])
  | c :: cs =>
    if c.tag = .comment then (dataOf c.tail ++ (parsedChildren cs).1, (parsedChildren cs).2)
    else ([], parsedNode (joinData (dataOf c.tail ++ (parsedChildren cs).1)) c :: (parsedChildren cs).2)
end

/-- New children after those of the innermost open element. -/
def appendTop : List Element → List Element → List Element
  | top :: rest, cs => { top with children := top.children ++ cs } :: rest
  | [], _ => []

theorem writeText_eq (text : Option String) : writeText text = (dataOf text).map .text := by
  cases text with
  | none => rfl
  | some t => by_cases h : t = "" <;> simp [writeText, dataOf, h]

theorem joinData_eq_none {data : List String} : joinData data = none ↔ data = [] := by
  by_cases h : data = [] <;> simp [joinData, h]

theorem setLastTail_concat (tail : String) (c : Element) :
    ∀ cs : List Element, setLastTail tail (cs ++ [c]) = cs ++ [{ c with tail := some tail }]
  | [] => rfl
  | [_] => rfl
  | x :: c' :: cs => by
    have ih := setLastTail_concat tail c (c' :: cs)
    rw [List.cons_append] at ih
    rw [List.cons_append, List.cons_append, setLastTail, ih]
    · rfl
    · exact List.cons_ne_nil _ _

@[simp] theorem appendTop_nil : ∀ stack : List Element, appendTop stack [] = stack
  | [] => rfl
  | ⟨_, _, _, _, _⟩ :: _ => by rw [appendTop, List.append_nil]

@[simp] theorem parsedNode_tail (t : Option String) (e : Element) : (parsedNode t e).tail = t := by
  obtain ⟨_, _, _, _, _⟩ := e
  rfl

@[simp] theorem parsedNode_with_tail (t t' : Option String) (e : Element) :
    ({ parsedNode t e with tail := t' } : Element) = parsedNode t' e := by
  obtain ⟨_, _, _, _, _⟩ := e
  rfl

theorem serialize_of_comment {c : Element} (hc : c.tag = .comment) :
    serialize c = .comment (c.text.getD "None") :: writeText c.tail := by
  obtain ⟨_, _, _, _, _⟩ := c
  subst hc
  rfl

namespace Builder

theorem flush_of_data_nil {b : Builder} (h : b.data = []) : b.flush = b := by
  simp [flush, joinData, h]

@[simp] theorem flush_data (b : Builder) : b.flush.data = [] := by
  unfold flush
  split
  · exact joinData_eq_none.1 ‹_›
  all_goals rfl

theorem flush_root {b : Builder} (hb : b.stack ≠ []) : b.flush.root = b.root := by
  unfold flush
  split <;> first | rfl | exact absurd ‹b.stack = []› hb

/-- Flushing keeps the elements below the innermost one. -/
theorem flush_stack_cons {b : Builder} {top : Element} {rest : List Element}
    (hs : b.stack = top :: rest) : ∃ top', b.flush.stack = top' :: rest := by
  unfold flush
  split <;> simp_all

/-- Flushing right after `start`: the data becomes the new element's text. -/
theorem flush_of_text {b : Builder} {top : Element} {rest : List Element} (hs : b.stack = top :: rest)
    (ht : b.tail = false) (htext : top.text = none) :
    b.flush = ⟨{ top with text := joinData b.data } :: rest, [], false, b.root⟩ := by
  obtain ⟨stack, data, tail, root⟩ := b
  obtain ⟨tag, attrib, text, t, children⟩ := top
  simp only at hs ht htext
  subst hs ht htext
  unfold flush
  cases h : joinData data with
  | none => simp [joinData_eq_none.1 h]
  | some text => rfl

/-- Flushing after an element closed: the data becomes its tail. -/
theorem flush_of_tail {b : Builder} {top c : Element} {rest cs : List Element}
    (hs : b.stack = { top with children := cs ++ [c] } :: rest) (ht : b.tail = true)
    (htail : c.tail = none) :
    b.flush = ⟨{ top with children := cs ++ [{ c with tail := joinData b.data }] } :: rest, [], true,
      b.root⟩ := by
  obtain ⟨stack, data, tail, root⟩ := b
  simp only at hs ht
  subst hs ht
  unfold flush
  cases h : joinData data with
  | none =>
    obtain ⟨_, _, _, t, _⟩ := c
    simp only at htail
    simp [joinData_eq_none.1 h, htail]
  | some text => simp [setLastTail_concat]

/-- Where `attach` puts an element does not depend on the `_tail` flag. -/
theorem attach_congr {b b' : Builder} (hs : b.stack = b'.stack) (hd : b.data = b'.data)
    (hr : b.root = b'.root) (e : Element) : b.attach e = b'.attach e := by
  obtain ⟨⟩ := b
  obtain ⟨⟩ := b'
  simp only at hs hd hr
  subst hs hd hr
  rfl

theorem endElement_of_flush {b : Builder} {e : Element} {s : List Element} {tag : String}
    (hs : b.flush.stack = e :: s) (htag : e.tag = .name tag) :
    b.endElement tag = { b.flush with stack := s }.attach e := by
  simp [endElement, hs, htag]

theorem feed_writeText (b : Builder) (text : Option String) :
    (writeText text).foldlM feed b = some { b with data := b.data ++ dataOf text } := by
  rw [writeText_eq]
  cases text with
  | none => simp [dataOf]
  | some t => by_cases h : t = "" <;> simp [dataOf, h, feed]

end Builder

open Builder

mutual
/-- The builder's run over a serialized element: the element, parsed, goes where `attach`
puts it, and its tail is the data that follows. -/
theorem feed_serialize : ∀ (e : Element), e.tag ≠ .comment → ∀ b : Builder,
    (serialize e).foldlM feed b =
      (b.flush.attach (parsedNode none e)).map fun b' => { b' with data := b'.data ++ dataOf e.tail }
  | ⟨.comment, _, _, _, _⟩, he, _ => absurd rfl he
  | ⟨.name tag, attrib, text, tl, children⟩, _, b => by
    rw [serialize, List.foldlM_append]
    split
    · obtain ⟨b', hrun, hstack, hroot⟩ := feed_serializeChildren children
        ⟨⟨.name tag, attrib, none, none, []⟩ :: b.flush.stack, dataOf text, false, b.flush.root⟩
        (List.cons_ne_nil _ _)
      have hflush := flush_of_text (b := ⟨⟨.name tag, attrib, none, none, []⟩ :: b.flush.stack,
        dataOf text ++ (parsedChildren children).1, false, b.flush.root⟩) rfl rfl rfl
      dsimp only at hstack
      rw [hflush] at hstack
      have hend : b'.endElement tag =
          b.flush.attach (parsedNode none ⟨.name tag, attrib, text, tl, children⟩) := by
        rw [endElement_of_flush (e := parsedNode none ⟨.name tag, attrib, text, tl, children⟩)
          (s := b.flush.stack) (by simpa [appendTop, parsedNode] using hstack) rfl]
        apply attach_congr <;> simp [hroot]
      simp [feed, start, hrun, hend, feed_writeText, Option.map_eq_bind, Function.comp_def]
    · rename_i h
      simp only [Bool.or_eq_true, bne_iff_ne, ne_eq, List.length_eq_zero, not_or, not_not,
        Bool.not_eq_true] at h
      obtain ⟨hany, rfl⟩ := h
      have htext : dataOf text = [] := by cases text <;> simp_all [dataOf]
      have hend : (b.start tag attrib).endElement tag =
          b.flush.attach (parsedNode none ⟨.name tag, attrib, text, tl, []⟩) := by
        rw [endElement_of_flush (e := parsedNode none ⟨.name tag, attrib, text, tl, []⟩)
          (s := b.flush.stack) ?_ rfl]
        · apply attach_congr <;> simp [start, flush_of_data_nil]
        · rw [flush_of_data_nil (by simp [start])]
          simp [start, parsedNode, parsedChildren, htext, joinData]
      simp [feed, hend, feed_writeText, Option.map_eq_bind, Function.comp_def]

/-- The builder's run over serialized children, inside an open element: up to the next
flush, the element children, parsed, follow the children already there. -/
theorem feed_serializeChildren : ∀ (cs : List Element) (b : Builder), b.stack ≠ [] →
    ∃ b', (serializeChildren cs).foldlM feed b = some b' ∧
      b'.flush.stack = appendTop (flush { b with data := b.data ++ (parsedChildren cs).1 }).stack
        (parsedChildren cs).2 ∧ b'.flush.root = b.root
  | [], b, hb => ⟨b, rfl, by simp [parsedChildren], flush_root hb⟩
  | c :: cs, b, hb => by
    obtain ⟨top, rest, hs⟩ := List.exists_cons_of_ne_nil hb
    obtain ⟨top', htop⟩ := flush_stack_cons hs
    rw [serializeChildren, List.foldlM_append]
    by_cases hc : c.tag = .comment
    · obtain ⟨b', hrun, hstack, hroot⟩ :=
        feed_serializeChildren cs { b with data := b.data ++ dataOf c.tail } hb
      refine ⟨b', ?_, ?_, hroot⟩
      · simp [serialize_of_comment hc, feed, feed_writeText, hrun]
      · simpa [parsedChildren, hc, List.append_assoc] using hstack
    · obtain ⟨b', hrun, hstack, hroot⟩ := feed_serializeChildren cs
        ⟨{ top' with children := top'.children ++ [parsedNode none c] } :: rest, dataOf c.tail, true,
          b.root⟩
        (List.cons_ne_nil _ _)
      refine ⟨b', ?_, ?_, hroot⟩
      · simp [feed_serialize c hc b, attach, htop, flush_root hb, hrun]
      · rw [hstack, flush_of_tail rfl rfl (parsedNode_tail none c)]
        simp [parsedChildren, hc, appendTop, htop]
end

/-- What a document may hold before its root and the builder drops: the declaration, comments
and character data. -/
def Token.isProlog : Token → Bool
  | .declaration _ | .comment _ | .text _ => true
  | .startTag .. | .endTag _ | .emptyTag .. => false

/-- Before the root nothing is open, and the builder only gathers character data. -/
theorem feed_prolog : ∀ {pre : List Token}, pre.all Token.isProlog → ∀ data : List String,
    ∃ data', pre.foldlM feed ⟨[], data, false, none⟩ = some ⟨[], data', false, none⟩
  | [], _, data => ⟨data, rfl⟩
  | t :: pre, h, data => by
    rw [List.all_cons, Bool.and_eq_true] at h
    cases t with
    | declaration _ | comment _ => exact feed_prolog h.2 data
    | text text => exact feed_prolog h.2 (data ++ [text])
    | startTag _ _ | endTag _ | emptyTag _ _ => exact absurd h.1 nofun

/-- A document of a prolog and one serialized element parses to that element, parsed. -/
theorem parseTokens_prolog {pre : List Token} (hpre : pre.all Token.isProlog) {device : Element}
    (h : device.tag ≠ .comment) :
    parseTokens (pre ++ serialize device) = some (parsedNode none device) := by
  obtain ⟨data, hrun⟩ := feed_prolog hpre []
  obtain ⟨data', hroot⟩ : ∃ data', (Builder.flush ⟨[], data, false, none⟩).attach
      (parsedNode none device) = some ⟨[], data', true, some (parsedNode none device)⟩ := by
    rcases hd : joinData data with _ | text <;> simp [flush, hd, attach]
  simp [parseTokens, Builder.init, List.foldlM_append, hrun, feed_serialize device h, hroot]

/-- `ElementTree.fromstring` on what `write_svd` writes: the device comes back as
`parsedNode` says, the header comment and the newlines around the device dropped. -/
theorem parseTokens_writeSvd (header encoding : String) {device : Element}
    (h : device.tag ≠ .comment) :
    parseTokens (writeSvd header encoding device) = some (parsedNode none device) := by
  rw [writeSvd_eq]
  exact parseTokens_prolog (by rfl) h

theorem parseTokens_writeSvd_peripheral :
    let p : Element := ⟨.name "peripheral", [], some "\n  ", some "\n",
      [{ leaf "name" "uart0" with tail := some "\n  " },
        { comment "end of uart0" with tail := some "\n" }]⟩
    p.tag ≠ .comment ∧ parseTokens (writeSvd "header" "UTF-8" p) =
      some ⟨.name "peripheral", [], some "\n  ", none,
        [{ leaf "name" "uart0" with tail := some "\n  \n" }]⟩ :=
  ⟨by decide, parseTokens_writeSvd "header" "UTF-8" (by decide)⟩

/-! ### Trees written as they are -/

/-- A node `_serialize_xml` writes as it is: not a comment, and no empty text or tail, which
it would leave out. -/
def WrittenAsIs (n : Element) : Prop := n.tag ≠ .comment ∧ n.text ≠ some "" ∧ n.tail ≠ some ""

theorem joinData_dataOf {text : Option String} (h : text ≠ some "") :
    joinData (dataOf text) = text := by
  cases text with
  | none => rfl
  | some s => simp_all [dataOf, joinData, String.join]

mutual
theorem parsedNode_of_every : ∀ e : Element, Every WrittenAsIs e → parsedNode e.tail e = e
  | ⟨tag, attrib, text, tl, children⟩, h => by
    have ⟨hroot, hcs⟩ := every_iff.1 h
    simp only [parsedNode, parsedChildren_of_every children hcs, List.append_nil,
      joinData_dataOf hroot.2.1]

theorem parsedChildren_of_every : ∀ cs : List Element, (∀ c ∈ cs, Every WrittenAsIs c) →
    parsedChildren cs = ([], cs)
  | [], _ => rfl
  | c :: cs, h => by
    have hc := every_iff.1 (h c (List.mem_cons_self c cs))
    rw [parsedChildren, parsedChildren_of_every cs fun c' hc' => h c' (List.mem_cons_of_mem c hc'),
      if_neg hc.1.1, List.append_nil, joinData_dataOf hc.1.2.2,
      parsedNode_of_every c (h c (List.mem_cons_self c cs))]
end

/-- The written document parses back to the tree itself, but for the root's tail, when no
node is a comment and no text or tail is empty. -/
theorem parseTokens_writeSvd_of_every (header encoding : String) {device : Element}
    (h : Every WrittenAsIs device) :
    parseTokens (writeSvd header encoding device) = some { device with tail := none } := by
  rw [writeSvd_eq, parseTokens_prolog (by rfl) (every_iff.1 h).1.1,
    ← parsedNode_with_tail device.tail none device, parsedNode_of_every device h]

theorem parseTokens_writeSvd_device :
    let device : Element :=
      ⟨.name "device", [], some "\n  ", none, [{ leaf "name" "top" with tail := some "\n" }]⟩
    Every WrittenAsIs device ∧
      parseTokens (writeSvd "header" "UTF-8" device) = some { device with tail := none } := by
  intro device
  have h : Every WrittenAsIs device := by simp [device, Every, WrittenAsIs, nodes, leaf]
  exact ⟨h, parseTokens_writeSvd_of_every "header" "UTF-8" h⟩

end SvdGen
