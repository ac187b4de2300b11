import SvdGen.Reader

/-! What the SVD says back: for each builder, the node it returns reads, through the reader,
as the spec's description of its HJSON input. Names and descriptions come back without the
whitespace around them; numbers, bit ranges and access values come back as they were.

`generateAllRegisters_read` is the register map: every flattened item in order, at its
absolute offset, a cluster's members at the offsets of its registers. -/
namespace SvdGen

open Element

/-! ### Fields -/

/-- The spec's SVD description of an HJSON field: its name, description and access modes,
and the bit range `[lsb + width - 1 : lsb]` of its `bitinfo`. -/
def FieldMeans (bits : Field) (info : FieldInfo) : Prop :=
  bits.name.map strip = some info.name ∧ bits.desc.map strip = some info.description ∧
    (∃ mask width, bits.bitinfo = some (mask, width, info.lsb) ∧ info.msb = info.lsb + width - 1) ∧
    swAccessModes bits.swaccess = .ok info.modes

theorem generateField_read {bits : Field} {node : Element} (h : generateField bits = .ok node) :
    ∃ info, readField node = some info ∧ FieldMeans bits info := by
  obtain ⟨modes, name, desc, ⟨mask, width, lsb⟩, hm, hn, hd, hb, rfl⟩ := generateField_eq_ok h
  refine ⟨⟨strip name, strip desc, lsb + width - 1, lsb, modes⟩, ?_, by simp [hn], by simp [hd],
    ⟨mask, width, hb, rfl⟩, hm⟩
  have hnd : (([("name", some name), ("description", some desc),
      ("bitRange", some (generateBitrange (mask, width, lsb)))] ++ accessTexts modes).map
        Prod.fst).Nodup := by
    simp [accessTexts]
  have hread := fun t => @readText_svdNode_of_mem (new "field") rfl _ hnd t
  simp only [List.cons_append, List.nil_append, List.mem_cons, forall_eq_or_imp] at hread
  obtain ⟨hname, hdesc, hrange, -⟩ := hread
  have hmodes := readModes_accessTexts fun t ht => find_svdNode_of_mem (e := new "field") rfl hnd
    (List.mem_append_right _ ht)
  simp only [List.cons_append, List.nil_append] at hmodes
  simp only [List.cons_append, List.nil_append, readField, svdNode_tag, new_tag, ite_true, hname,
    hdesc, hrange, hmodes, Option.some_bind, Option.map_some',
    strip_generateBitrange, parseBitRange_generateBitrange]
  rfl

theorem mapM_readField {fs : List Field} {nodes : List Element}
    (h : List.Forall₂ (fun f n => generateField f = .ok n) fs nodes) :
    ∃ infos, nodes.mapM readField = some infos ∧ List.Forall₂ FieldMeans fs infos := by
  induction h with
  | nil => exact ⟨[], rfl, .nil⟩
  | cons hf _ ih =>
    obtain ⟨info, hinfo, hmeans⟩ := generateField_read hf
    obtain ⟨infos, hinfos, hall⟩ := ih
    exact ⟨info :: infos, by rw [List.mapM_cons, hinfo, hinfos]; rfl, .cons hmeans hall⟩

/-- The `<fields>` child `generate_all_fields` appends reads back as the HJSON fields. -/
theorem readFields_generateAllFields {flatten : Bool} {fields : Option (List Field)}
    {fns : List Element} (h : generateAllFields flatten fields = .ok fns) {e : Element}
    (he : e.find "fields" = none) :
    ∃ infos, readFields (extendNode e fns) = some infos ∧
      ((flatten = true ∨ fields = none) ∧ infos = none ∨
        flatten = false ∧ Option.Rel (List.Forall₂ FieldMeans) fields infos) := by
  rcases generateAllFields_eq_ok h with ⟨hno, rfl⟩ | ⟨hflat, fs, fieldNodes, rfl, hf, rfl⟩
  · refine ⟨none, ?_, .inl ⟨hno, rfl⟩⟩
    simp [readFields, find_extendNode, he]
  · obtain ⟨infos, hinfos, hall⟩ := mapM_readField hf
    refine ⟨some infos, ?_, .inr ⟨hflat, .some hall⟩⟩
    simp only [readFields, find_extendNode, he, extendNode_tag, new_tag, decide_True,
      List.find?_cons_of_pos, Option.none_or, extendNode_children, new_children, List.nil_append,
      hinfos, Option.map_some']

/-! ### Registers and windows -/

/-- The flatten rule as the SVD shows it: either the single field's width as `<size>` and no
fields, or no `<size>` and the fields of the field list, when there is one. -/
def FlattenMeans (reg : Reg) (size : Option Int) (fields : Option (List FieldInfo)) : Prop :=
  (∃ width, FlattensTo reg width ∧ size = some width ∧ fields = none) ∨
    (∀ width, ¬FlattensTo reg width) ∧ size = none ∧
      Option.Rel (List.Forall₂ FieldMeans) reg.fields fields

/-- What a register and a window's template both say in the SVD, at the absolute offset:
description, `genoffset`, mask, reset value and mask, access modes, and size and fields by
the flatten rule. -/
def BodyMeans (reg : Reg) (info : RegisterInfo) : Prop :=
  reg.desc.map strip = some info.description ∧ reg.genoffset = some info.addressOffset ∧
    info.mask = reg.genbitsused ∧ info.resetValue = reg.genresval ∧
    info.resetMask = reg.genresmask ∧ swAccessModes reg.swaccess = .ok info.modes ∧
    FlattenMeans reg info.size info.fields

/-- The spec's SVD description of an HJSON register: its name and body, and no `<dim>`. -/
def RegisterMeans (reg : Reg) (info : RegisterInfo) : Prop :=
  reg.name.map strip = some info.name ∧ BodyMeans reg info ∧ info.dim = none ∧
    info.dimIncrement = none

/-- The spec's SVD description of a window: its template's body, named with the `%s`
placeholder, `<dim>` its `items` and `<dimIncrement>` its `genvalidbits` in bytes as
`int(genvalidbits/8)` computes them, which below `2 ^ 53` is the quotient truncated toward
zero and above it the quotient of the double nearest to `genvalidbits` (`intDiv8_eq`). -/
def WindowMeans (window : Reg) (info : RegisterInfo) : Prop :=
  window.name.map (fun name => strip (placeholderName name)) = some info.name ∧
    BodyMeans window info ∧ (∃ items, window.items = some items ∧ info.dim = some items) ∧
    ∃ bits bytes, window.genvalidbits = some bits ∧ intDiv8 bits = .ok bytes ∧
      info.dimIncrement = some bytes

/-- The reader on a node whose keyword texts after the name are those `generate_register`
writes (they do not depend on the name). -/
theorem readRegister_eq {e : Element} {base : Int} {name n desc : String} {offset : Int}
    {size : Option Int} {reg : Reg} {modes : AccessModes} {dim dimIncrement : Option Int}
    {fields : Option (List FieldInfo)} (hname : e.readText "name" = some name)
    (htexts : ∀ t ∈ (registerTexts n desc offset size reg modes).tail, e.find t.1 = t.2.map (leaf t.1))
    (hdim : e.find "dim" = (dim.map toString).map (leaf "dim"))
    (hinc : e.find "dimIncrement" = (hexOrNone dimIncrement).map (leaf "dimIncrement"))
    (hfields : readFields e = some fields) :
    readRegister base e = some ⟨name, strip desc, base + offset, size, reg.genbitsused,
      reg.genresval, reg.genresmask, modes, dim, dimIncrement, fields⟩ := by
  have hdesc : e.readText "description" = some (strip desc) :=
    readText_of_find (htexts ("description", some desc) (by simp [registerTexts]))
  have hoff : e.readText "addressOffset" = some (strip (hex offset)) :=
    readText_of_find (htexts ("addressOffset", hexOrNone (some offset)) (by simp [registerTexts]))
  have hvalues : readValues e = some (size, reg.genbitsused, reg.genresval, reg.genresmask, dim,
      dimIncrement) := by
    simp only [readValues,
      readOptional_eq parseInt_toString strip_toString_int
        (htexts ("size", size.map toString) (by simp [registerTexts])),
      readOptional_eq parseHex_of_hex strip_hex
        (htexts ("mask", hexOrNone reg.genbitsused) (by simp [registerTexts])),
      readOptional_eq parseHex_of_hex strip_hex
        (htexts ("resetValue", hexOrNone reg.genresval) (by simp [registerTexts])),
      readOptional_eq parseHex_of_hex strip_hex
        (htexts ("resetMask", hexOrNone reg.genresmask) (by simp [registerTexts])),
      readOptional_eq parseInt_toString strip_toString_int hdim,
      readOptional_eq parseHex_of_hex strip_hex hinc]
    rfl
  have hmodes : readModes e = some modes :=
    readModes_accessTexts fun t ht => htexts t (by simp [registerTexts, ht])
  simp only [readRegister, hname, hdesc, hoff, Option.some_bind, strip_hex, parseHex_of_hex, hvalues,
    hmodes, hfields]
  rfl

/-- What `generate_register` writes, keyword by keyword: the texts of `registerTexts`, no
`<dim>` or `<dimIncrement>`, and the fields, which follow the flatten rule. -/
theorem generateRegister_texts {reg : Reg} {base : Int} {node : Element}
    (h : generateRegister reg base = .ok node) :
    ∃ name desc off size modes fields, reg.name = some name ∧ reg.desc = some desc ∧
      reg.genoffset = some off ∧ swAccessModes reg.swaccess = .ok modes ∧
      FlattenMeans reg size fields ∧
      (∀ t ∈ registerTexts name desc (off - base) size reg modes, node.find t.1 = t.2.map (leaf t.1)) ∧
      node.find "dim" = none ∧ node.find "dimIncrement" = none ∧ readFields node = some fields := by
  obtain ⟨size, modes, name, desc, off, fns, hs, hm, hn, hd, ho, hf, rfl⟩ := generateRegister_eq_ok h
  have hnd : ((registerTexts name desc (off - base) size reg modes).map Prod.fst).Nodup := by
    simp [registerTexts, accessTexts]
  have htags : ∀ key, key ≠ "fields" → ∀ c ∈ fns, c.tag ≠ .name key := fun key hk c hc hc' =>
    hk ((Tag.name.inj ((generateAllFields_plain hf c hc).2.symm.trans hc')).symm)
  have hnot : ∀ key ∈ ["fields", "dim", "dimIncrement"],
      key ∉ (registerTexts name desc (off - base) size reg modes).map Prod.fst := by
    simp [registerTexts, accessTexts]
  have hfind : ∀ key, key ≠ "fields" → key ∉ (registerTexts name desc (off - base) size reg modes).map
      Prod.fst → (extendNode (svdNode (new "register")
        (registerTexts name desc (off - base) size reg modes)) fns).find key = none := by
    intro key hne hk
    rw [find_extendNode, find_svdNode_new, List.filter_eq_nil_iff.2 fun t ht h =>
      hk (List.mem_map.2 ⟨t, ht, by simpa using h⟩)]
    exact List.find?_eq_none.2 fun c hc => by simpa using htags key hne c hc
  have hnone : (svdNode (new "register") (registerTexts name desc (off - base) size reg modes)).find
      "fields" = none := by
    rw [find_svdNode_new, List.filter_eq_nil_iff.2 fun t ht h =>
      hnot "fields" (by simp) (List.mem_map.2 ⟨t, ht, by simpa using h⟩)]
    rfl
  obtain ⟨fields, hfields, hcases⟩ := readFields_generateAllFields hf hnone
  refine ⟨name, desc, off, size, modes, fields, hn, hd, ho, hm, ?_, fun t ht => ?_,
    hfind "dim" (by decide) (hnot "dim" (by simp)),
    hfind "dimIncrement" (by decide) (hnot "dimIncrement" (by simp)), hfields⟩
  · cases size with
    | some width =>
      refine .inl ⟨width, (flattenSize_eq_ok hs width).1 rfl, rfl, ?_⟩
      simpa using hcases
    | none =>
      refine .inr ⟨fun width hw => by simpa using (flattenSize_eq_ok hs width).2 hw, rfl, ?_⟩
      rcases hcases with ⟨hno, rfl⟩ | ⟨-, hrel⟩
      · simp only [Option.isSome_none, Bool.false_eq_true, false_or] at hno
        rw [hno]
        exact .none
      · exact hrel
  · exact (find_extendNode_of_tags (htags _ fun h => hnot "fields" (by simp) (h ▸ List.mem_map_of_mem _ ht))).trans
      (find_svdNode_of_mem rfl hnd ht)

/-- A register the converter writes at `base` reads back, at `base`, as the HJSON register. -/
theorem generateRegister_read {reg : Reg} {base : Int} {node : Element}
    (h : generateRegister reg base = .ok node) :
    ∃ info, readRegister base node = some info ∧ RegisterMeans reg info := by
  obtain ⟨name, desc, off, size, modes, fields, hn, hd, ho, hm, hflat, htexts, hdim, hinc, hfields⟩ :=
    generateRegister_texts h
  refine ⟨_, readRegister_eq (readText_of_find (htexts _ (List.mem_cons_self _ _)))
    (fun t ht => htexts t (List.mem_of_mem_tail ht)) (by simp [hdim])
    (by simp [hinc]) hfields, by simp [hn],
    ⟨by simp [hd], by rw [ho]; congr 1; dsimp only; omega, rfl, rfl, rfl, hm, hflat⟩, rfl, rfl⟩

/-- A keyword `svd_node` does not write is found where it was before. -/
theorem find_svdNode_of_not_mem {e : Element} {texts : List (String × Option String)} {key : String}
    (hk : key ∉ texts.map Prod.fst) : (svdNode e texts).find key = e.find key := by
  have hnone : (texts.filterMap fun t => t.2.map (leaf t.1)).find? (·.tag = .name key) = none := by
    rw [find?_leaves, List.filter_eq_nil_iff.2 fun t ht h =>
      hk (List.mem_map.2 ⟨t, ht, by simpa using h⟩)]
    rfl
  simp only [find, svdNode_children, List.find?_append, hnone, Option.or_none]

/-- A keyword the node lacked is found among the texts `svd_node` writes. -/
theorem find_svdNode_of_none {e : Element} {texts : List (String × Option String)} {key : String}
    (h : e.find key = none) :
    (svdNode e texts).find key = ((texts.filter (·.1 = key)).findSome? (·.2)).map (leaf key) := by
  simp only [find] at h
  simp only [find, svdNode_children, List.find?_append, h, Option.none_or, find?_leaves]

/-- Away from `<name>`, a node with its name leaf rewritten finds what it found before. -/
theorem find_renamed {e : Element} {pre post : List Element} {a b : String}
    (hcs : e.children = pre ++ leaf "name" a :: post) {key : String} (hkey : key ≠ "name") :
    ({ e with children := pre ++ leaf "name" b :: post } : Element).find key = e.find key := by
  simp only [find, hcs]
  exact find?_renamed key hkey

/-- A window the converter writes at `base` reads back, at `base`, as the HJSON window:
the register of its template, renamed with the placeholder and dimensioned. -/
theorem generateDimRegister_read {window : Reg} {base : Int} {node : Element}
    (h : generateDimRegister window base = .ok node) :
    ∃ info, readRegister base node = some info ∧ WindowMeans window info := by
  obtain ⟨register, items, bits, bytes, children, hr, hi, hb, hdiv, hn, rfl⟩ :=
    generateDimRegister_eq_ok h
  obtain ⟨name, desc, off, size, modes, fields, hname, hd, ho, hm, hflat, htexts, hdim, hinc, hfields⟩ :=
    generateRegister_texts hr
  obtain ⟨-, -, ⟨name', hname', hfind⟩, -⟩ := generateRegister_node hr
  obtain rfl : name = name' := Option.some.inj (hname.symm.trans hname')
  obtain ⟨pre, post, hcs, hnone, rfl⟩ := nameWithPlaceholder_leaf (find_svdNode_of_find hfind) hn
  have hkeys : ∀ t ∈ (registerTexts name desc (off - base) size window modes).tail,
      t.1 ≠ "name" ∧ t.1 ∉ ["dim", "dimIncrement"] := by
    simp [registerTexts, accessTexts]
  refine ⟨_, readRegister_eq (readText_of_find (v := placeholderName name) ?_)
    (fun t (ht : t ∈ (registerTexts name desc (off - base) size window modes).tail) => ?_) ?_ ?_ ?_,
    by simp [hname],
    ⟨by simp [hd], by rw [ho]; congr 1; dsimp only; omega, rfl, rfl, rfl, hm, hflat⟩,
    ⟨items, hi, rfl⟩, bits, bytes, hb, hdiv, rfl⟩
  · simp [find, List.find?_append, hnone, leaf]
  · rw [find_renamed hcs (hkeys t ht).1, find_svdNode_of_not_mem (by simpa using (hkeys t ht).2)]
    exact htexts t (List.mem_of_mem_tail ht)
  · rw [find_renamed hcs (by decide), find_svdNode_of_none hdim]
    rfl
  · rw [find_renamed hcs (by decide), find_svdNode_of_none hinc]
    rfl
  · rw [← hfields, readFields, readFields, find_renamed hcs (by decide), find_svdNode_of_not_mem (by simp)]

/-! ### Clusters and the register map -/

/-- The spec's SVD description of a flattened item, at absolute offsets: a register or a
window as above; a multireg a cluster with its name and description, at the lowest
`genoffset` of its `genregs`, whose members describe the items of the `genregs` in order. -/
inductive ItemMeans : Item → MemberInfo → Prop
  | register {reg : Reg} {info : RegisterInfo} :
      RegisterMeans reg info → ItemMeans (.register reg) (.register info)
  | window {window : Reg} {info : RegisterInfo} :
      WindowMeans window info → ItemMeans (.window window) (.register info)
  | cluster {multi : Reg} {genregs : List Reg} {offsets : List Int} {name desc : String}
      {offset : Int} {members : List MemberInfo} : multi.genregs = some genregs →
      multi.name.map strip = some name → multi.desc.map strip = some desc →
      List.Forall₂ (fun r o => readGenoffset r = .ok o) genregs offsets →
      offset ∈ offsets → (∀ o ∈ offsets, offset ≤ o) →
      List.Forall₂ ItemMeans (flatten genregs) members →
      ItemMeans (.cluster multi) (.cluster name desc offset members)

/-- Members that each read back as their item read back, in order, as the item list. -/
theorem readMembers_of_forall₂ {base : Int} {items : List Item} {nodes : List Element}
    (h : List.Forall₂ (fun it n => (n.tag = .name "register" ∨ n.tag = .name "cluster") ∧
      ∃ m, readMember base n = some m ∧ ItemMeans it m) items nodes) :
    ∃ members, readMembers base nodes = some members ∧ List.Forall₂ ItemMeans items members := by
  induction h with
  | nil => exact ⟨[], rfl, .nil⟩
  | cons hn _ ih =>
    obtain ⟨htag, m, hm, hmeans⟩ := hn
    obtain ⟨ms, hms, hrest⟩ := ih
    exact ⟨m :: ms, by rw [readMembers_cons_of_member htag, hm, hms]; rfl, .cons hmeans hrest⟩

/-- Each node `generate_all_registers` returns is a member that reads back as its item. -/
theorem generateAllRegisters_members {regs : List Reg} {base : Int} {nodes : List Element}
    (h : generateAllRegisters regs base = .ok nodes) :
    List.Forall₂ (fun it n => (n.tag = .name "register" ∨ n.tag = .name "cluster") ∧
      ∃ m, readMember base n = some m ∧ ItemMeans it m) (flatten regs) nodes := by
  refine generateAllRegisters_forall₂ (R := fun base it n =>
    (n.tag = .name "register" ∨ n.tag = .name "cluster") ∧
      ∃ m, readMember base n = some m ∧ ItemMeans it m) ?_ ?_ ?_ regs base nodes h
  · intro reg base node h
    obtain ⟨info, hinfo, hmeans⟩ := generateRegister_read h
    have htag := (generateRegister_node h).1
    exact ⟨.inl htag, _, by rw [readMember_of_register htag, hinfo]; rfl, .register hmeans⟩
  · intro window base node h
    obtain ⟨info, hinfo, hmeans⟩ := generateDimRegister_read h
    have htag := (generateDimRegister_node h).2.1
    exact ⟨.inl htag, _, by rw [readMember_of_register htag, hinfo]; rfl, .window hmeans⟩
  · intro multi genregs offsets c name desc registers hg ho hc hn hd hr hall
    obtain ⟨members, hms, hmeans⟩ := readMembers_of_forall₂ hall
    have hmin := pyMin_eq_ok.1 hc
    refine ⟨.inr rfl, .cluster (strip name) (strip desc) c members, ?_,
      .cluster hg (by simp [hn]) (by simp [hd]) ho hmin.1 hmin.2 hmeans⟩
    rw [readMember_of_cluster rfl]
    simp [clusterNode, readText, find_extendNode, find_svdNode_new, leaf, leafText, parseHex_of_hex,
      readMembers_cons_of_other, hms]

/-- The register map is read back from what `generate_all_registers` writes: each flattened
item of the HJSON list, in order, is a member of the SVD that describes it, at its absolute
offsets, clusters included. -/
theorem generateAllRegisters_read {regs : List Reg} {base : Int} {nodes : List Element}
    (h : generateAllRegisters regs base = .ok nodes) :
    ∃ members, readMembers base nodes = some members ∧ List.Forall₂ ItemMeans (flatten regs) members :=
  readMembers_of_forall₂ (generateAllRegisters_members h)

theorem generateAllRegisters_read_status :
    let status0 : Reg := { Reg.empty with name := some " STATUS0", desc := some "s0", genoffset := some 4 }
    let buffer : Reg := { Reg.empty with
      window := some { Reg.empty with
        name := some "BUF", desc := some "b", genoffset := some 8, items := some 4,
        genvalidbits := some 32 } }
    let status : Reg := { Reg.empty with
      multireg := some { Reg.empty with
        name := some "STATUS", desc := some "s", genregs := some [status0, buffer] } }
    ∃ nodes, generateAllRegisters [status] 0 = .ok nodes ∧
      ∃ members, readMembers 0 nodes = some members ∧ List.Forall₂ ItemMeans (flatten [status]) members := by
  intro status0 buffer status
  obtain ⟨nodes, h⟩ : ∃ nodes, generateAllRegisters [status] 0 = .ok nodes := ⟨_, rfl⟩
  exact ⟨nodes, h, generateAllRegisters_read h⟩

/-! ### Peripherals and the device -/

/-- The interrupts of an `interrupt_list`, numbered by their index, as the SVD shows them. -/
def InterruptsMean (irqs : List (Nat × Irq)) (infos : List (String × Int)) : Prop :=
  List.Forall₂ (fun irq info => irq.2.name.map strip = some info.1 ∧ info.2 = irq.1) irqs infos

/-- The spec's SVD description of a peripheral: the module's name and base address, one
interrupt per entry of the IP block's `interrupt_list` numbered by its index, and the
register map of its `registers`. -/
def PeripheralMeans (module : Module) (ip : Ip) (info : PeripheralInfo) : Prop :=
  module.name.map strip = some info.name ∧ module.baseAddr.map strip = some info.baseAddress ∧
    InterruptsMean (ip.interruptList.getD []).enum info.interrupts ∧
    ∃ regs, ip.registers = some regs ∧ List.Forall₂ ItemMeans (flatten regs) info.registers

/-- The spec's SVD description of the device: the top's name and data width, the version and
description it was given, byte addressing, and one peripheral per module of the top, each
described by the IP block of its `type`. -/
def DeviceMeans (top : Top) (ips : String → Option Ip) (version description : String)
    (info : DeviceInfo) : Prop :=
  top.name.map strip = some info.name ∧ info.version = strip version ∧
    info.description = strip description ∧ top.datawidth.map strip = some info.width ∧
    info.size = info.width ∧ info.addressUnitBits = 8 ∧
    ∃ modules, top.module = some modules ∧ List.Forall₂ (fun module p => ∃ type ip,
      module.type = some type ∧ ips type = some ip ∧ PeripheralMeans module ip p) modules info.peripherals

theorem readInterrupt_interruptNode (name : String) (num : Nat) :
    readInterrupt (interruptNode name num) = some (strip name, (num : Int)) := by
  simp [readInterrupt, interruptNode, readText_svdNode (new_children "interrupt"),
    show parseInt (toString num) = some (num : Int) from parseInt_toString num]

theorem mapM_readInterrupt {irqs : List (Nat × Irq)} {nodes : List Element}
    (h : List.Forall₂ (fun (e : Nat × Irq) node =>
      ∃ name, e.2.name = some name ∧ interruptNode name e.1 = node) irqs nodes) :
    ∃ infos, nodes.mapM readInterrupt = some infos ∧ InterruptsMean irqs infos := by
  induction h with
  | nil => exact ⟨[], rfl, .nil⟩
  | cons hi _ ih =>
    obtain ⟨name, hn, rfl⟩ := hi
    obtain ⟨infos, hinfos, hall⟩ := ih
    exact ⟨_ :: infos, by rw [List.mapM_cons, readInterrupt_interruptNode, hinfos]; rfl,
      .cons ⟨by simp [hn], rfl⟩ hall⟩

/-- The reader on the node `generate_peripheral` builds: the interrupts are the children it
finds under `interrupt`, the register map the children of `<registers>`. -/
theorem readPeripheral_peripheralNode {name baseAddr : String} {interrupts registerNodes : List Element}
    (hi : ∀ c ∈ interrupts, c.tag = .name "interrupt") :
    readPeripheral (peripheralNode name baseAddr interrupts registerNodes) = (do
      let irqs ← interrupts.mapM readInterrupt
      let members ← readMembers 0 registerNodes
      pure ⟨strip name, strip baseAddr, irqs, members⟩) := by
  have hall : interrupts.filter (·.tag = .name "interrupt") = interrupts :=
    List.filter_eq_self.2 fun c hc => by simp [hi c hc]
  have hnone : interrupts.find? (·.tag = .name "registers") = none :=
    List.find?_eq_none.2 fun c hc => by simp [hi c hc]
  simp [readPeripheral, peripheralNode, readText, find_extendNode, find_svdNode_new, leaf, leafText, findAll,
    List.filter_append, hall, List.find?_append, hnone, comment]

theorem generatePeripheral_read {module : Module} {ip : Ip} {node : Element}
    (h : generatePeripheral module ip = .ok node) :
    ∃ info, readPeripheral node = some info ∧ PeripheralMeans module ip info := by
  obtain ⟨name, baseAddr, interrupts, regs, registerNodes, hn, hb, hi, hr, hrn, rfl⟩ :=
    generatePeripheral_eq_ok h
  have hirqs := generateAllInterrupts_eq_ok.1 hi
  obtain ⟨irqs, hirq, hmean⟩ := mapM_readInterrupt hirqs
  obtain ⟨members, hms, hitems⟩ := readMembers_of_forall₂ (generateAllRegisters_members hrn)
  have htags : ∀ c ∈ interrupts, c.tag = .name "interrupt" := fun c hc => by
    obtain ⟨_, _, _, -, rfl⟩ := exists_of_forall₂_mem hirqs hc
    rfl
  refine ⟨⟨strip name, strip baseAddr, irqs, members⟩, ?_, by simp [hn], by simp [hb], hmean, regs,
    hr, hitems⟩
  rw [readPeripheral_peripheralNode htags, hirq, hms]
  rfl

theorem mapM_readPeripheral {modules : List Module} {ips : String → Option Ip}
    {peripherals : List Element} (h : List.Forall₂ (fun module p => ∃ type, module.type = some type ∧
      ∃ ip, ips type = some ip ∧ generatePeripheral module ip = .ok p) modules peripherals) :
    ∃ infos, peripherals.mapM readPeripheral = some infos ∧ List.Forall₂ (fun module p => ∃ type ip,
      module.type = some type ∧ ips type = some ip ∧ PeripheralMeans module ip p) modules infos := by
  induction h with
  | nil => exact ⟨[], rfl, .nil⟩
  | cons hp _ ih =>
    obtain ⟨type, ht, ip, hip, hgen⟩ := hp
    obtain ⟨info, hinfo, hmeans⟩ := generatePeripheral_read hgen
    obtain ⟨infos, hinfos, hall⟩ := ih
    exact ⟨info :: infos, by rw [List.mapM_cons, hinfo, hinfos]; rfl,
      .cons ⟨type, ip, ht, hip, hmeans⟩ hall⟩

/-- The reader on the node `generate_device` builds. -/
theorem readDevice_deviceNode (name version description datawidth : String) (ps : List Element) :
    readDevice (extendNode (svdNode { new "device" with attrib := deviceAttrib }
      [("vendor", some "lowRISC"), ("name", some name), ("version", some version),
        ("description", some description), ("width", some datawidth), ("size", some datawidth),
        ("addressUnitBits", some "8")]) [generateCpu, extendNode (svdNode (new "peripherals") []) ps]) =
      (ps.mapM readPeripheral).bind fun infos => some ⟨strip name, strip version, strip description,
        strip datawidth, strip datawidth, 8, infos⟩ := by
  have h8 : parseInt (strip "8") = some 8 := by decide
  simp [readDevice, readDeviceTexts, readText, find_extendNode, find_svdNode_of_children_nil, leaf,
    leafText, generateCpu, h8]

/-- The device `generate_device` builds reads back as the top, its modules and their IP
blocks describe it. -/
theorem generateDevice_read {top : Top} {ips : String → Option Ip} {version description : String}
    {device : Element} (h : generateDevice top ips version description = .ok device) :
    ∃ info, readDevice device = some info ∧ DeviceMeans top ips version description info := by
  obtain ⟨name, datawidth, modules, peripherals, hn, hd, hm, hp, rfl⟩ := generateDevice_eq_ok h
  obtain ⟨ps, hps, rfl⟩ := generatePeripherals_eq_ok hp
  obtain ⟨infos, hinfos, hall⟩ := mapM_readPeripheral hps
  refine ⟨⟨strip name, strip version, strip description, strip datawidth, strip datawidth, 8, infos⟩,
    ?_, by simp [hn], rfl, rfl, by simp [hd], rfl, rfl, modules, hm, hall⟩
  rw [readDevice_deviceNode, hinfos]
  rfl

end SvdGen
