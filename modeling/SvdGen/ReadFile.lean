import SvdGen.Namespace

/-! The file `write_svd` writes, read back by `ElementTree.fromstring`. A tree whose nodes are
`Clean` is written as markup the tokenizer reads back token for token, with no two runs of
character data in a row; a tree without namespaces is reported as it is written; so the
characters of the file parse back to the tree `parseTokens` makes of the written events
(`parseDocument_writeSvd`). -/
namespace SvdGen

open Element

/-- A node `write_svd` writes so that the tokenizer reads it back: an element name that is an
XML name, attributes with XML names and plain values, each named once, plain text, a comment
XML allows, and a plain tail. -/
@[mk_iff] structure Clean (n : Element) : Prop where
  name : ∀ tag, n.tag = .name tag → validName tag.toList
  attrib : n.attrib.all attributeOk
  nodup : (n.attrib.map Prod.fst).Nodup
  text : n.tag ≠ .comment → n.text.all plainText
  comment : n.tag = .comment → commentText (n.text.getD "None").toList
  tail : n.tail.all plainText

theorem lexable_writeText {text : Option String} (h : text.all plainText) :
    ∀ t ∈ writeText text, lexable t := by
  cases text with
  | none => simp [writeText]
  | some s =>
    simp only [Option.all_some] at h
    by_cases hs : s = "" <;> simp [writeText, hs, lexable, h]

mutual
/-- Every token the serializer writes for a clean tree is one the tokenizer reads back. -/
theorem lexable_serialize : ∀ e : Element, Every Clean e → ∀ t ∈ serialize e, lexable t
  | ⟨.comment, attrib, text, tl, children⟩, h => by
    have hc := (every_iff.1 h).1
    simp only [serialize, List.mem_cons]
    rintro t (rfl | ht)
    · exact hc.comment rfl
    · exact lexable_writeText hc.tail t ht
  | ⟨.name tag, attrib, text, tl, children⟩, h => by
    obtain ⟨hc, hcs⟩ := every_iff.1 h
    have hn : validName tag.toList := hc.name tag rfl
    have hstart : lexable (.startTag tag attrib) ∧ lexable (.emptyTag tag attrib) := by
      simp only [lexable, hn, hc.attrib, Bool.true_and, decide_eq_true_eq, and_self]
      exact hc.nodup
    simp only [serialize, List.mem_append]
    rintro t (ht | ht)
    · split at ht
      · simp only [List.append_assoc, List.mem_cons, List.mem_append, List.mem_singleton,
          List.not_mem_nil, or_false] at ht
        rcases ht with (rfl | ht) | ht | rfl
        · exact hstart.1
        · exact lexable_writeText (hc.text nofun) t ht
        · exact lexable_serializeChildren children hcs t ht
        · exact hc.name tag rfl
      · simp only [List.mem_singleton] at ht
        exact ht ▸ hstart.2
    · exact lexable_writeText hc.tail t ht

theorem lexable_serializeChildren : ∀ cs : List Element, (∀ c ∈ cs, Every Clean c) →
    ∀ t ∈ serializeChildren cs, lexable t
  | [], _ => by simp [serializeChildren]
  | c :: cs, h => by
    simp only [serializeChildren, List.mem_append]
    rintro t (ht | ht)
    · exact lexable_serialize c (h c (List.mem_cons_self _ _)) t ht
    · exact lexable_serializeChildren cs (fun c' hc' => h c' (List.mem_cons_of_mem _ hc')) t ht
end

/-! ### Runs of character data -/

/-- Markup comes first, or nothing. -/
def markupFirst (tokens : List Token) : Bool := tokens.head?.all fun t => !t.isText

theorem textsApart_of_markup {t : Token} (ht : t.isText = false) (ts : List Token) :
    textsApart (t :: ts) = textsApart ts := by
  simp [textsApart_cons, ht]

theorem textsApart_writeText_append (text : Option String) {ts : List Token}
    (hts : markupFirst ts) : textsApart (writeText text ++ ts) = textsApart ts := by
  cases text with
  | none => rfl
  | some s =>
    simp only [writeText]
    split
    · rfl
    · cases ts with
      | nil => rfl
      | cons u us =>
        simp only [markupFirst, List.head?_cons, Option.all_some, Bool.not_eq_true'] at hts
        simp [textsApart_cons, hts]

theorem markupFirst_serialize_append (e : Element) (ts : List Token) :
    markupFirst (serialize e ++ ts) := by
  obtain ⟨_ | tag, attrib, text, tl, children⟩ := e
  · simp only [serialize]
    split <;> rfl
  · rfl

theorem markupFirst_serializeChildren_append (cs : List Element) {ts : List Token}
    (hts : markupFirst ts) : markupFirst (serializeChildren cs ++ ts) := by
  cases cs with
  | nil => exact hts
  | cons c cs =>
    rw [serializeChildren, List.append_assoc]
    exact markupFirst_serialize_append c _

mutual
/-- No two runs of character data are written in a row: each text or tail is followed by
markup or by the end. -/
theorem textsApart_serialize_append : ∀ (e : Element) (ts : List Token), markupFirst ts →
    textsApart (serialize e ++ ts) = textsApart ts
  | ⟨.comment, _, _, tl, _⟩, ts, hts => by
    simp only [serialize, List.cons_append]
    rw [textsApart_of_markup (t := .comment _) rfl, textsApart_writeText_append tl hts]
  | ⟨.name tag, attrib, text, tl, children⟩, ts, hts => by
    simp only [serialize, List.append_assoc]
    rw [← textsApart_writeText_append tl hts]
    split
    · have hend : markupFirst (.endTag tag :: (writeText tl ++ ts)) := rfl
      simp only [List.cons_append, List.append_assoc, List.singleton_append, List.nil_append]
      rw [textsApart_of_markup (t := .startTag tag attrib) rfl, textsApart_writeText_append text
        (markupFirst_serializeChildren_append children hend),
        textsApart_serializeChildren_append children _ hend,
        textsApart_of_markup (t := .endTag tag) rfl]
    · simp only [List.singleton_append]
      rw [textsApart_of_markup (t := .emptyTag tag attrib) rfl]

theorem textsApart_serializeChildren_append : ∀ (cs : List Element) (ts : List Token),
    markupFirst ts → textsApart (serializeChildren cs ++ ts) = textsApart ts
  | [], _, _ => rfl
  | c :: cs, ts, hts => by
    rw [serializeChildren, List.append_assoc,
      textsApart_serialize_append c _ (markupFirst_serializeChildren_append cs hts),
      textsApart_serializeChildren_append cs ts hts]
end

/-! ### The file -/

/-- What `write_svd` writes before the tree, as the tokenizer reads it: the declaration, the
newline after it, the header comment and its tail. -/
theorem lexDocument_writeSvd {header encoding : String} {device : Element}
    (hh : commentText header.toList) (he : validEncName encoding.toList) (hd : Every Clean device) :
    lexDocument (document (writeSvd header encoding device)) =
      some (.declaration encoding :: .text "\n" :: .comment header :: .text "\n" :: serialize device) := by
  have hw : writeSvd header encoding device =
      .declaration encoding :: .comment header :: .text "\n" :: serialize device := by
    simp [writeSvd, comment, serialize, writeText]
  have hlexable : (Token.comment header :: .text "\n" :: serialize device).all lexable := by
    simp only [List.all_cons, List.all_eq_true.2 (lexable_serialize device hd), Bool.and_true]
    simp only [lexable, hh, Bool.true_and]
    decide
  have hapart : textsApart (.text "\n" :: .comment header :: .text "\n" :: serialize device) := by
    have hs := textsApart_serialize_append device [] rfl
    have hm := markupFirst_serialize_append device []
    rw [List.append_nil] at hs hm
    have hhead : (serialize device).head?.any Token.isText = false := by
      cases h : (serialize device).head? <;> simp_all [markupFirst]
    simp [textsApart_cons, hs, hhead, Token.isText]
  rw [hw, lexDocument_document he hlexable hapart]

/-- The events the tree builder gets from what `write_svd` writes, when the root element is
the only one to declare namespaces: those written, the root's attributes as reported. -/
theorem resolve_writeSvd {header encoding tag : String} {attrib decls attrib' : List (String × String)}
    {text tl : Option String} {children : List Element} (hn : ':' ∉ tag.toList)
    (hopen : openScope [] tag attrib = some (⟨tag, decls⟩, tag, attrib'))
    (hd : decls.lookup "" = none) (hc : ∀ c ∈ children, Every NsPlain c) (ht : blankText tl) :
    resolve (.declaration encoding :: .text "\n" :: .comment header :: .text "\n" ::
        serialize ⟨.name tag, attrib, text, tl, children⟩) =
      some (.declaration encoding :: .text "\n" :: .comment header :: .text "\n" ::
        serialize ⟨.name tag, attrib', text, tl, children⟩) := by
  have hrun : resolveRun [] (serialize ⟨.name tag, attrib, text, tl, children⟩) = _ :=
    resolveRun_root hn hopen hd hc ht
  have hdecl : resolveToken [] (.declaration encoding) = some ([], .declaration encoding) := rfl
  have hnl : resolveToken [] (.text "\n") = some ([], .text "\n") := rfl
  have hcom : resolveToken [] (.comment header) = some ([], .comment header) := rfl
  simp only [resolve, resolveRun_cons_of hdecl (resolveRun_cons_of hnl (resolveRun_cons_of hcom
    (resolveRun_cons_of hnl hrun))), Option.bind_eq_bind, Option.some_bind, List.isEmpty_nil,
    if_true]

/-- The characters `write_svd` writes are read back by `ElementTree.fromstring` as the tree the
builder makes of the written events, but for the root's attributes, which expat reports with
their namespaces resolved and their declarations left out. -/
theorem parseDocument_writeSvd_eq {header encoding tag : String}
    {attrib decls attrib' : List (String × String)} {text tl : Option String}
    {children : List Element} (hh : commentText header.toList) (he : validEncName encoding.toList)
    (hclean : Every Clean ⟨.name tag, attrib, text, tl, children⟩) (hn : ':' ∉ tag.toList)
    (hopen : openScope [] tag attrib = some (⟨tag, decls⟩, tag, attrib'))
    (hd : decls.lookup "" = none) (hc : ∀ c ∈ children, Every NsPlain c) (ht : blankText tl) :
    parseDocument (document (writeSvd header encoding ⟨.name tag, attrib, text, tl, children⟩)) =
      some (parsedNode none ⟨.name tag, attrib', text, tl, children⟩) := by
  have hparse : parseTokens (.declaration encoding :: .text "\n" :: .comment header :: .text "\n" ::
      serialize ⟨.name tag, attrib', text, tl, children⟩) =
        some (parsedNode none ⟨.name tag, attrib', text, tl, children⟩) :=
    @parseTokens_prolog [.declaration encoding, .text "\n", .comment header, .text "\n"] rfl _ nofun
  simp only [parseDocument, lexDocument_writeSvd hh he hclean, resolve_writeSvd hn hopen hd hc ht,
    Option.bind_eq_bind, Option.some_bind, hparse]

/-- Round trip of the file: the characters `write_svd` writes for a clean tree without
namespaces, its root an element with a blank tail, are read by `ElementTree.fromstring` into
`parsedNode` of the tree: the tree itself, but for its comments and empty texts. -/
theorem parseDocument_writeSvd {header encoding : String} {device : Element}
    (hh : commentText header.toList) (he : validEncName encoding.toList)
    (hd : Every (fun n => Clean n ∧ NsPlain n) device) (htag : device.tag ≠ .comment)
    (ht : blankText device.tail) :
    parseDocument (document (writeSvd header encoding device)) = some (parsedNode none device) := by
  obtain ⟨tag | _, attrib, text, tl, children⟩ := device
  · obtain ⟨⟨-, hn, ha, hnd⟩, hc⟩ := every_iff.1 hd
    exact parseDocument_writeSvd_eq hh he (hd.mono fun _ h => h.1) (hn tag rfl)
      (openScope_of_plain (hn tag rfl) ha hnd rfl) rfl (fun c hc' => (hc c hc').mono fun _ h => h.2) ht
  · exact absurd rfl htag

theorem parseDocument_writeSvd_device :
    let device : Element := ⟨.name "device", [("schemaVersion", "1.1")], none, some "\n",
      [leaf "name" "uart"]⟩
    parseDocument (document (writeSvd "header" "UTF-8" device)) = some (parsedNode none device) :=
  parseDocument_writeSvd (by decide) (by decide)
    (by simp [Every, nodes, nodesList, leaf, clean_iff, NsPlain, attributeOk, plainText, plainName];
        decide) nofun (by decide)

end SvdGen
