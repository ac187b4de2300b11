import SvdGen.Names
import SvdGen.ReadFile
import SvdGen.ReadParsed

/-! The converter from HJSON to characters and back. `convert_top_to_svd` builds `<device>`,
indents it and returns it; `write_svd` writes it as a document; ElementTree reads the document
with expat, which resolves the `xmlns:xs` declaration on `<device>`; the SVD reader reads the
tree. Whenever the texts of the tree are XML character data, this gives back the HJSON input
(`convertTopToSvd_parseDocument`). -/
namespace SvdGen

open Element

instance (P : Element → Prop) [DecidablePred P] (e : Element) : Decidable (Every P e) :=
  inferInstanceAs (Decidable (∀ n ∈ e.nodes, P n))

/-- The texts of a node are what XML can carry: character data of XML characters without a
carriage return, and a comment with no `--` in it and no `-` at its end. -/
def TextClean (n : Element) : Prop :=
  (n.tag ≠ .comment → n.text.all plainText) ∧ (n.tag = .comment → commentText (n.text.getD "None").toList)

instance : DecidablePred TextClean := fun _ => inferInstanceAs (Decidable (_ ∧ _))

/-! ### What indenting keeps of every node -/

section Reindent

variable (s : String)

@[simp] theorem reindent_attrib (d : Nat) (t : String) (e : Element) :
    (reindent s d t e).attrib = e.attrib := by
  obtain ⟨⟩ := e
  rfl

@[simp] theorem reindent_tail (d : Nat) (t : String) (e : Element) :
    (reindent s d t e).tail = some t := by
  obtain ⟨⟩ := e
  rfl

mutual
/-- What indenting makes of one node, given what the node was and the tail it is given, it
makes of every node of the tree, the tails of the nodes below being indentations. -/
theorem every_reindent {R P : Element → Prop} {T : String → Prop}
    (hstep : ∀ d t e, R e → T t → P (reindent s d t e)) (hind : ∀ k, T (ind s k)) :
    ∀ (d : Nat) (t : String) (e : Element), Every R e → T t → Every P (reindent s d t e)
  | d, t, ⟨_, _, _, _, children⟩, he, ht => by
    refine every_iff.2 ⟨hstep d t _ (every_iff.1 he).1 ht, ?_⟩
    rw [reindent_children]
    exact every_reindentChildren hstep hind d children (every_iff.1 he).2

theorem every_reindentChildren {R P : Element → Prop} {T : String → Prop}
    (hstep : ∀ d t e, R e → T t → P (reindent s d t e)) (hind : ∀ k, T (ind s k)) :
    ∀ (d : Nat) (cs : List Element), (∀ c ∈ cs, Every R c) →
      ∀ c ∈ reindentChildren s d cs, Every P c
  | _, [], _ => nofun
  | d, [c], h => by
    rw [reindentChildren, List.forall_mem_singleton]
    exact every_reindent hstep hind (d + 1) _ c (h c (.head _)) (hind d)
  | d, c :: c' :: cs, h => by
    rw [reindentChildren_cons_cons, List.forall_mem_cons]
    exact ⟨every_reindent hstep hind (d + 1) _ c (h c (.head _)) (hind (d + 1)),
      every_reindentChildren hstep hind d (c' :: cs) fun x hx => h x (.tail _ hx)⟩
end

end Reindent

theorem plainText_ind (k : Nat) : plainText (ind "\n" k) := by
  simp [plainText, ind, plainChar, isXmlChar, List.all_replicate]

/-- A named node whose texts are XML character data and whose tail is plain is written so
that the tokenizer reads it back, and without namespaces. -/
theorem clean_of_named {n : Element} (hn : Named n) (ht : TextClean n) (htail : n.tail.all plainText) :
    Clean n ∧ NsPlain n := by
  obtain ⟨hname, hattrib⟩ := hn
  have hok : ∀ t, n.tag = .name t → validName t.toList ∧ ':' ∉ t.toList := fun t h => by
    simpa [nameOk] using hname t h
  exact ⟨⟨fun t h => (hok t h).1, by simp [hattrib], by simp [hattrib], ht.1, ht.2, htail⟩,
    fun t h => (hok t h).2, by simp [hattrib], by simp [hattrib]⟩

/-- Indenting keeps the nodes below a node named, and gives them plain tails. -/
theorem every_named_reindentChildren {d : Nat} {cs : List Element} (h : ∀ c ∈ cs, Every Named c) :
    ∀ c ∈ reindentChildren "\n" d cs, Every (fun n => Named n ∧ n.tail.all plainText) c :=
  every_reindentChildren "\n" (T := fun t => plainText t)
    (fun _ _ _ hn ht => ⟨⟨fun t h => hn.1 t (by simpa using h), by simp [hn.2]⟩, by simpa using ht⟩)
    plainText_ind d cs h

/-! ### `<device>` as expat reports it -/

/-- The attributes of `<device>` as expat reports them: the `xmlns:xs` declaration taken out,
and `xs:noNamespaceSchemaLocation` named by its namespace. -/
def reportedDeviceAttrib : List (String × String) :=
  [("schemaVersion", "1.1"),
    ("\x7bhttp://www.w3.org/2001/XMLSchema-instance\x7dnoNamespaceSchemaLocation", "CMSIS-SVD.xsd")]

theorem openScope_deviceAttrib : openScope [] "device" deviceAttrib =
    some (⟨"device", [("xs", "http://www.w3.org/2001/XMLSchema-instance")]⟩, "device",
      reportedDeviceAttrib) := by
  decide

/-- The file `write_svd` writes for what `convert_top_to_svd` returns is read by
`ElementTree.fromstring`, namespaces resolved, into a tree that the SVD reader reads as the
HJSON input, whenever the texts of the returned tree are XML character data. -/
theorem convertTopToSvd_parseDocument {top : Top} {ips : String → Option Ip}
    {version description : String} {verify : Bool} {validate : Element → Except Error Unit}
    {root : Element} (h : convertTopToSvd top ips version description verify validate = .ok root)
    {header encoding : String} (hh : commentText header.toList) (he : validEncName encoding.toList)
    (htext : Every TextClean root) :
    ∃ tree info, parseDocument (document (writeSvd header encoding root)) = some tree ∧
      readDevice tree = some info ∧ DeviceMeans top ips version description info := by
  obtain ⟨device, hd, rfl⟩ := convertTopToSvd_eq_ok h
  obtain ⟨info, hinfo, hmeans⟩ := generateDevice_read hd
  obtain ⟨htag, hattrib, hnamed⟩ := generateDevice_named hd
  obtain ⟨tag, attrib, text, tl, children⟩ := device
  obtain rfl : tag = .name "device" := htag
  obtain rfl : attrib = deviceAttrib := hattrib
  have hr := indentTree_eq_reindent "\n" ⟨.name "device", deviceAttrib, text, tl, children⟩ 0
  rw [ind_zero] at hr
  rw [hr, reindent] at htext ⊢
  obtain ⟨hroot, htexts⟩ := every_iff.1 htext
  have hbelow : ∀ c ∈ reindentChildren "\n" 0 children, Every (fun n => Clean n ∧ NsPlain n) c :=
    fun c hc n hn =>
      have hn' := every_named_reindentChildren hnamed c hc n hn
      clean_of_named hn'.1 (htexts c hc n hn) hn'.2
  have hclean : Every Clean ⟨.name "device", deviceAttrib,
      if children.isEmpty then text.map strip else some (ind "\n" (0 + 1)), some "\n",
      reindentChildren "\n" 0 children⟩ :=
    every_iff.2 ⟨⟨fun t h => (by cases h; decide), (by decide : deviceAttrib.all attributeOk),
      (by decide : (deviceAttrib.map Prod.fst).Nodup), hroot.1, (nomatch ·),
      (by decide : (some "\n").all plainText)⟩, fun c hc => (hbelow c hc).mono fun _ h => h.1⟩
  refine ⟨_, info, parseDocument_writeSvd_eq hh he hclean (by decide) openScope_deviceAttrib rfl
    (fun c hc => (hbelow c hc).mono fun _ h => h.2) (by decide), ?_, hmeans⟩
  have hread := readDevice_reindent "\n" 0 "\n" ⟨.name "device", deviceAttrib, text, tl, children⟩
  rw [hinfo, reindent] at hread
  exact readDevice_parsed none hread reportedDeviceAttrib

theorem convertTopToSvd_parseDocument_uart :
    let ctrl : Reg := { Reg.empty with
      name := some "CTRL", desc := some " c\n", genoffset := some 0, swaccess := some "rw",
      fields := some [⟨some "en", some "e", some (1, 1, 0), some "rw1c"⟩] }
    let top : Top := ⟨some "top", some "32", some [⟨some "uart0", some "uart", some "0x40000000"⟩]⟩
    let ips (type : String) : Option Ip :=
      if type = "uart" then some ⟨some [⟨some "tx"⟩], some [ctrl]⟩ else none
    ∃ root, convertTopToSvd top ips "1.0" "test" true (fun _ => pure ()) = .ok root ∧
      ∃ tree info, parseDocument (document (writeSvd "header" "UTF-8" root)) = some tree ∧
        readDevice tree = some info ∧ DeviceMeans top ips "1.0" "test" info := by
  intro ctrl top ips
  obtain ⟨root, h, ht⟩ : ∃ root, convertTopToSvd top ips "1.0" "test" true (fun _ => pure ()) =
    .ok root ∧ Every TextClean root := ⟨_, rfl, by decide⟩
  exact ⟨root, h, convertTopToSvd_parseDocument h (by decide) (by decide) ht⟩

end SvdGen
