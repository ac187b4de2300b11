import SvdGen.Element

/-! One register: `sw_access_modes`, `generate_bitrange`, `generate_field`,
`generate_register` with its flatten rule, and the window variant `generate_dim_register`. -/
namespace SvdGen

open Element

/-- `pysvd.type.access`. -/
inductive Access where
  | readOnly
  | readWrite
  | writeOnly
  deriving Repr, DecidableEq

/-- `pysvd.type.readAction`. -/
inductive ReadAction where
  | clear
  deriving Repr, DecidableEq

/-- `pysvd.type.modifiedWriteValues`. -/
inductive ModifiedWriteValues where
  | oneToClear
  | oneToSet
  | zeroToClear
  deriving Repr, DecidableEq

/-- The SVD text `str` gives each `pysvd` access value. -/
instance : ToString Access := ⟨fun
  | .readOnly => "read-only"
  | .readWrite => "read-write"
  | .writeOnly => "write-only"⟩

instance : ToString ReadAction := ⟨fun | .clear => "clear"⟩

instance : ToString ModifiedWriteValues := ⟨fun
  | .oneToClear => "oneToClear"
  | .oneToSet => "oneToSet"
  | .zeroToClear => "zeroToClear"⟩

/-- The triple `sw_access_modes` returns. -/
abbrev AccessModes := Option Access × Option ReadAction × Option ModifiedWriteValues

/-- `sw_access_modes`: the `modes` table subscripted by the `swaccess` label, `None` when the
key is absent; another label raises `KeyError`. -/
def swAccessModes : Option String → Except Error AccessModes
  | none => pure (none, none, none)
  | some "ro" => pure (some .readOnly, none, none)
  | some "rc" => pure (some .readOnly, some .clear, none)
  | some "rw" => pure (some .readWrite, none, none)
  | some "r0w1c" => pure (some .writeOnly, none, some .oneToClear)
  | some "rw1s" => pure (some .readWrite, none, some .oneToSet)
  | some "rw1c" => pure (some .readWrite, none, some .oneToClear)
  | some "rw0c" => pure (some .readWrite, none, some .zeroToClear)
  | some "wo" => pure (some .writeOnly, none, none)
  | some label => throw (.keyError label)

/-- The three access keywords of `svd_node`, in the source's order. -/
def accessTexts (modes : AccessModes) : List (String × Option String) :=
  [("access", modes.1.map toString), ("readAction", modes.2.1.map toString),
    ("modifiedWriteValues", modes.2.2.map toString)]

/-- `generate_bitrange`: `[msb:lsb]` from reggen's `(bitmask, width, lsb)`. -/
def generateBitrange (bitinfo : Int × Int × Int) : String :=
  s!"[{bitinfo.2.2 + bitinfo.2.1 - 1}:{bitinfo.2.2}]"

example : generateBitrange (0xf00, 4, 8) = "[11:8]" := by decide

/-- `generate_field`. -/
def generateField (bits : Field) : Except Error Element := do
  let modes ← swAccessModes bits.swaccess
  let name ← getitem bits.name "name"
  let desc ← getitem bits.desc "desc"
  let bitinfo ← getitem bits.bitinfo "bitinfo"
  pure (svdNode (new "field") ([("name", some name), ("description", some desc),
    ("bitRange", some (generateBitrange bitinfo))] ++ accessTexts modes))

/-- `size` in `generate_register`: the width of the only field when the register is
flattened, `None` otherwise. The source's `flatten` flag is `size.isSome`; the subscripts
are made in the order of Python's short-circuit `and`. -/
def flattenSize (reg : Reg) : Except Error (Option Int) :=
  match reg.fields with
  | some [field] => do
    let fieldName ← getitem field.name "name"
    let regName ← getitem reg.name "name"
    if caseCompare fieldName regName then
      let bitinfo ← getitem field.bitinfo "bitinfo"
      pure (if bitinfo.2.2 = 0 then some bitinfo.2.1 else none)
    else pure none
  | _ => pure none

/-- The inner generator `generate_all_fields`: a `<fields>` node holding one `<field>` per
field, unless the register is flattened or has no field list. -/
def generateAllFields (flatten : Bool) : Option (List Field) → Except Error (List Element)
  | some fields =>
    if flatten then pure [] else do
      let fieldNodes ← fields.mapM generateField
      pure [extendNode (new "fields") fieldNodes]
  | none => pure []

/-- The keyword texts of the `<register>` node, in the source's order. -/
def registerTexts (name desc : String) (offset : Int) (size : Option Int) (reg : Reg)
    (modes : AccessModes) : List (String × Option String) :=
  [("name", some name), ("description", some desc), ("addressOffset", hexOrNone (some offset)),
    ("size", size.map toString), ("mask", hexOrNone reg.genbitsused),
    ("resetValue", hexOrNone reg.genresval), ("resetMask", hexOrNone reg.genresmask)] ++
    accessTexts modes

/-- `generate_register`. -/
def generateRegister (reg : Reg) (base : Int) : Except Error Element := do
  let size ← flattenSize reg
  let modes ← swAccessModes reg.swaccess
  let name ← getitem reg.name "name"
  let desc ← getitem reg.desc "desc"
  let genoffset ← getitem reg.genoffset "genoffset"
  let register := svdNode (new "register") (registerTexts name desc (genoffset - base) size reg modes)
  let fieldNodes ← generateAllFields size.isSome reg.fields
  pure (extendNode register fieldNodes)

/-- The name a window register gets: `'%s'` appended unless the text already holds it. -/
def placeholderName (text : String) : String :=
  if hasPlaceholder text.toList then text else text ++ "%s"

/-- `name = window.find('./name')` and the in-place `name.text += '%s'` that follows. -/
def nameWithPlaceholder : List Element → Except Error (List Element)
  | [] => throw .attributeError
  | c :: cs =>
    if c.tag = .name "name" then
      match c.text with
      | some text => pure ({ c with text := some (placeholderName text) } :: cs)
      | none => throw .attributeError
    else (c :: ·) <$> nameWithPlaceholder cs

/-- `generate_dim_register`: the window's template as a register, with `<dim>` and
`<dimIncrement>` appended and the `%s` placeholder put into its name. -/
def generateDimRegister (window : Reg) (base : Int) : Except Error Element := do
  let register ← generateRegister window base
  let items ← getitem window.items "items"
  let genvalidbits ← getitem window.genvalidbits "genvalidbits"
  let dimIncrement ← intDiv8 genvalidbits
  let node := svdNode register
    [("dim", some (toString items)), ("dimIncrement", hexOrNone (some dimIncrement))]
  let children ← nameWithPlaceholder node.children
  pure { node with children := children }

/-- A fresh node that is not a `<cluster>`: what a register's subtree is made of. -/
def Plain (n : Element) : Prop := FreshNode n ∧ n.tag ≠ .name "cluster"

theorem plain_of {e : Element} (htag : e.tag ≠ .name "cluster") (htext : e.text = none)
    (htail : e.tail = none) : Plain e :=
  ⟨freshNode_of_text htext htail, htag⟩

/-- The text children `svd_node` adds are plain when no keyword is `cluster`. -/
theorem plain_leaves {texts : List (String × Option String)} (h : "cluster" ∉ texts.map Prod.fst) :
    ∀ t ∈ texts, ∀ v, t.2 = some v → Plain (leaf t.1 v) :=
  fun t ht _ _ => ⟨freshNode_leaf _ _, fun hk => h (List.mem_map.2 ⟨t, ht, Tag.name.inj hk⟩)⟩

theorem generateField_eq_ok {bits : Field} {node : Element} (h : generateField bits = .ok node) :
    ∃ modes name desc bitinfo, swAccessModes bits.swaccess = .ok modes ∧ bits.name = some name ∧
      bits.desc = some desc ∧ bits.bitinfo = some bitinfo ∧
      node = svdNode (new "field") ([("name", some name), ("description", some desc),
        ("bitRange", some (generateBitrange bitinfo))] ++ accessTexts modes) := by
  simp only [generateField, bind_eq_ok, getitem_eq_ok, pure_eq_ok] at h
  obtain ⟨modes, h1, name, h2, desc, h3, bitinfo, h4, rfl⟩ := h
  exact ⟨modes, name, desc, bitinfo, h1, h2, h3, h4, rfl⟩

theorem generateField_plain {bits : Field} {node : Element} (h : generateField bits = .ok node) :
    Every Plain node := by
  obtain ⟨modes, name, desc, bitinfo, -, -, -, -, rfl⟩ := generateField_eq_ok h
  exact every_svdNode (plain_of (by simp) rfl rfl) (by simp)
    (plain_leaves (by simp [accessTexts]))

theorem generateAllFields_eq_ok {flatten : Bool} {fields : Option (List Field)} {nodes : List Element}
    (h : generateAllFields flatten fields = .ok nodes) :
    (flatten = true ∨ fields = none) ∧ nodes = [] ∨
      flatten = false ∧ ∃ fs fieldNodes, fields = some fs ∧
        List.Forall₂ (fun f n => generateField f = .ok n) fs fieldNodes ∧
        nodes = [extendNode (new "fields") fieldNodes] := by
  cases fields with
  | none => exact .inl ⟨.inr rfl, (pure_eq_ok.1 h).symm⟩
  | some fs =>
    cases flatten
    · simp only [generateAllFields, Bool.false_eq_true, ite_false, bind_eq_ok, pure_eq_ok,
        mapM_eq_ok] at h
      obtain ⟨fieldNodes, hf, rfl⟩ := h
      exact .inr ⟨rfl, fs, fieldNodes, rfl, hf, rfl⟩
    · exact .inl ⟨.inl rfl, (pure_eq_ok.1 h).symm⟩

theorem generateAllFields_plain {flatten : Bool} {fields : Option (List Field)} {nodes : List Element}
    (h : generateAllFields flatten fields = .ok nodes) :
    ∀ n ∈ nodes, Every Plain n ∧ n.tag = .name "fields" := by
  rcases generateAllFields_eq_ok h with ⟨-, rfl⟩ | ⟨-, fs, fieldNodes, -, hf, rfl⟩
  · simp
  · simp only [List.mem_singleton, forall_eq, extendNode_tag, new_tag, and_true]
    refine every_extendNode (plain_of (by simp) rfl rfl) (by simp) fun c hc => ?_
    obtain ⟨f, -, hfc⟩ := exists_of_forall₂_mem hf hc
    exact generateField_plain hfc

/-- The spec's flatten rule: exactly one field, named as the register up to case, at bit 0,
whose width is `width`. -/
def FlattensTo (reg : Reg) (width : Int) : Prop :=
  ∃ field fieldName regName mask, reg.fields = some [field] ∧ field.name = some fieldName ∧
    reg.name = some regName ∧ caseCompare fieldName regName = true ∧
    field.bitinfo = some (mask, width, 0)

/-- `flatten` holds exactly when the spec's rule does, and `size` is then the field's width. -/
theorem flattenSize_eq_ok {reg : Reg} {size : Option Int} (h : flattenSize reg = .ok size)
    (width : Int) : size = some width ↔ FlattensTo reg width := by
  unfold flattenSize at h
  split at h
  case h_1 field hfields =>
    simp only [bind_eq_ok, getitem_eq_ok] at h
    obtain ⟨fieldName, hfn, regName, hrn, h⟩ := h
    have key : FlattensTo reg width ↔
        caseCompare fieldName regName = true ∧ ∃ mask, field.bitinfo = some (mask, width, 0) := by
      simp [FlattensTo, hfields, hfn, hrn]
    rw [key]
    by_cases hc : caseCompare fieldName regName = true
    · simp only [hc, ite_true, bind_eq_ok, getitem_eq_ok, pure_eq_ok] at h
      obtain ⟨⟨mask, w, lsb⟩, hb, rfl⟩ := h
      by_cases hl : lsb = 0 <;> simp [hb, hl, hc]
    · simp only [hc, Bool.false_eq_true, ite_false, pure_eq_ok] at h
      simp [← h, hc]
  case h_2 hne =>
    simp only [pure_eq_ok] at h
    simp only [← h, reduceCtorEq, false_iff]
    rintro ⟨field, -, -, -, hf, -⟩
    exact hne field hf

theorem generateRegister_eq_ok {reg : Reg} {base : Int} {node : Element}
    (h : generateRegister reg base = .ok node) :
    ∃ size modes name desc genoffset fieldNodes, flattenSize reg = .ok size ∧
      swAccessModes reg.swaccess = .ok modes ∧ reg.name = some name ∧ reg.desc = some desc ∧
      reg.genoffset = some genoffset ∧ generateAllFields size.isSome reg.fields = .ok fieldNodes ∧
      node = extendNode (svdNode (new "register")
        (registerTexts name desc (genoffset - base) size reg modes)) fieldNodes := by
  simp only [generateRegister, bind_eq_ok, getitem_eq_ok, pure_eq_ok] at h
  obtain ⟨size, h1, modes, h2, name, h3, desc, h4, off, h5, fns, h6, rfl⟩ := h
  exact ⟨size, modes, name, desc, off, fns, h1, h2, h3, h4, h5, h6, rfl⟩

theorem generateRegister_plain {reg : Reg} {base : Int} {node : Element}
    (h : generateRegister reg base = .ok node) : Every Plain node := by
  obtain ⟨size, modes, name, desc, off, fns, -, -, -, -, -, hf, rfl⟩ := generateRegister_eq_ok h
  have hfns := generateAllFields_plain hf
  have hreg : Every Plain (svdNode (new "register") (registerTexts name desc (off - base) size reg modes)) :=
    every_svdNode (plain_of (by simp) rfl rfl) (by simp)
      (plain_leaves (by simp [registerTexts, accessTexts]))
  exact every_extendNode (plain_of (by simp) rfl rfl) (every_iff.1 hreg).2 fun c hc => (hfns c hc).1

/-- A compiled register is a `<register>` whose name, offset and lack of `<dim>` can be read
off its children. -/
theorem generateRegister_node {reg : Reg} {base : Int} {node : Element}
    (h : generateRegister reg base = .ok node) :
    node.tag = .name "register" ∧ node.text = none ∧
      (∃ name, reg.name = some name ∧ node.find "name" = some (leaf "name" name)) ∧
      (∃ genoffset, reg.genoffset = some genoffset ∧
        node.findText "addressOffset" = some (hex (genoffset - base))) ∧
      node.children.all (·.tag ≠ .name "dim") := by
  obtain ⟨size, modes, name, desc, off, fns, -, -, hn, -, ho, hf, rfl⟩ := generateRegister_eq_ok h
  have hfns := generateAllFields_plain hf
  refine ⟨rfl, rfl, ⟨name, hn, ?_⟩, ⟨off, ho, ?_⟩, ?_⟩
  · simp [find_extendNode, find_svdNode_new, registerTexts, accessTexts]
  · simp [findText, find_extendNode, find_svdNode_new, registerTexts, accessTexts, leaf]
  · simp only [extendNode_children, svdNode_children, new_children, List.nil_append,
      List.all_append, Bool.and_eq_true, List.all_eq_true, decide_eq_true_eq]
    refine ⟨fun c hc => ?_, fun c hc => by simp [(hfns c hc).2]⟩
    obtain ⟨t, ht, hc⟩ := List.mem_filterMap.1 hc
    obtain ⟨v, -, rfl⟩ := Option.map_eq_some'.1 hc
    have hkeys : "dim" ∉ (registerTexts name desc (off - base) size reg modes).map Prod.fst := by
      simp [registerTexts, accessTexts]
    exact fun hk => hkeys (List.mem_map.2 ⟨t, ht, Tag.name.inj hk⟩)

theorem nameWithPlaceholder_eq_ok {cs cs' : List Element} (h : nameWithPlaceholder cs = .ok cs') :
    ∃ pre c text post, cs = pre ++ c :: post ∧ (∀ x ∈ pre, x.tag ≠ .name "name") ∧
      c.tag = .name "name" ∧ c.text = some text ∧
      cs' = pre ++ { c with text := some (placeholderName text) } :: post := by
  induction cs generalizing cs' with
  | nil => exact absurd h throw_ne_ok
  | cons c cs ih =>
    unfold nameWithPlaceholder at h
    split_ifs at h with hc
    · split at h
      · rename_i text ht
        exact ⟨[], c, text, cs, rfl, by simp, hc, ht, (pure_eq_ok.1 h).symm⟩
      · exact absurd h throw_ne_ok
    · obtain ⟨ds, hds, rfl⟩ := map_eq_ok.1 h
      obtain ⟨pre, d, text, post, rfl, hpre, hd, ht, rfl⟩ := ih hds
      refine ⟨c :: pre, d, text, post, rfl, ?_, hd, ht, rfl⟩
      simpa [hc] using hpre

theorem generateDimRegister_eq_ok {window : Reg} {base : Int} {node : Element}
    (h : generateDimRegister window base = .ok node) :
    ∃ register items genvalidbits dimIncrement children, generateRegister window base = .ok register ∧
      window.items = some items ∧ window.genvalidbits = some genvalidbits ∧
      intDiv8 genvalidbits = .ok dimIncrement ∧
      nameWithPlaceholder (svdNode register [("dim", some (toString items)),
        ("dimIncrement", hexOrNone (some dimIncrement))]).children = .ok children ∧
      node = { svdNode register [("dim", some (toString items)),
        ("dimIncrement", hexOrNone (some dimIncrement))] with children := children } := by
  simp only [generateDimRegister, bind_eq_ok, getitem_eq_ok, pure_eq_ok] at h
  obtain ⟨register, h1, items, h2, bits, h3, inc, h4, children, h5, rfl⟩ := h
  exact ⟨register, items, bits, inc, children, h1, h2, h3, h4, h5, rfl⟩

/-- Rewriting the text of the name leaf changes nothing another tag finds. -/
theorem find?_renamed {pre post : List Element} {a b : String} (key : String) (hkey : key ≠ "name") :
    (pre ++ leaf "name" a :: post).find? (·.tag = .name key) =
      (pre ++ leaf "name" b :: post).find? (·.tag = .name key) := by
  simp [List.find?_append, List.find?_cons, leaf, Ne.symm hkey]

/-- `nameWithPlaceholder` rewrites the first `name` child, and nothing else. -/
theorem nameWithPlaceholder_leaf {cs cs' : List Element} {name : String}
    (hfind : cs.find? (·.tag = .name "name") = some (leaf "name" name))
    (h : nameWithPlaceholder cs = .ok cs') :
    ∃ pre post, cs = pre ++ leaf "name" name :: post ∧ pre.find? (·.tag = .name "name") = none ∧
      cs' = pre ++ leaf "name" (placeholderName name) :: post := by
  obtain ⟨pre, c, text, post, rfl, hpre, hc, ht, rfl⟩ := nameWithPlaceholder_eq_ok h
  have hnone : pre.find? (·.tag = .name "name") = none := List.find?_eq_none.2 (by simpa using hpre)
  obtain rfl : c = leaf "name" name := by simpa [List.find?_append, hnone, hc] using hfind
  obtain rfl : text = name := by simpa [leaf] using ht.symm
  exact ⟨pre, post, rfl, hnone, by rw [leaf_with_text]⟩

/-- A compiled window is a `<register>` with a `<dim>` child, the template's offset, and the
template's name with the `%s` placeholder. -/
theorem generateDimRegister_node {window : Reg} {base : Int} {node : Element}
    (h : generateDimRegister window base = .ok node) :
    Every Plain node ∧ node.tag = .name "register" ∧ node.text = none ∧
      (∃ name, window.name = some name ∧ node.findText "name" = some (placeholderName name)) ∧
      (∃ genoffset, window.genoffset = some genoffset ∧
        node.findText "addressOffset" = some (hex (genoffset - base))) ∧
      node.children.any (·.tag = .name "dim") := by
  obtain ⟨register, items, bits, inc, children, hr, -, -, -, hn, rfl⟩ := generateDimRegister_eq_ok h
  obtain ⟨htag, htext, ⟨name, hname, hfind⟩, ⟨off, hoff, hao⟩, -⟩ := generateRegister_node hr
  obtain ⟨pre, post, hcs, hnone, rfl⟩ :=
    nameWithPlaceholder_leaf (find_svdNode_of_find hfind) hn
  have hplain := every_iff.1 (generateRegister_plain hr)
  have hmem : ∀ x ∈ pre ++ leaf "name" name :: post, Every Plain x := by
    rw [← hcs]
    intro x hx
    rcases List.mem_append.1 hx with hx | hx
    · exact hplain.2 x hx
    · obtain ⟨t, ht, hx⟩ := List.mem_filterMap.1 hx
      obtain ⟨v, hv, rfl⟩ := Option.map_eq_some'.1 hx
      exact every_leaf.2 (plain_leaves (by simp) t ht v hv)
  refine ⟨every_iff.2 ⟨plain_of (by simp [htag]) (by simp [htext]) hplain.1.1.2, ?_⟩,
    by simp [htag], by simp [htext], ⟨name, hname, ?_⟩, ⟨off, hoff, ?_⟩, ?_⟩
  · simp only [List.mem_append, List.mem_cons]
    rintro x (hx | rfl | hx)
    · exact hmem x (by simp [hx])
    · exact every_leaf.2 ⟨freshNode_leaf _ _, by simp [leaf]⟩
    · exact hmem x (by simp [hx])
  · simp [findText, find, List.find?_append, hnone, leaf]
  · obtain ⟨x, hx, hxt⟩ := Option.bind_eq_some.1 hao
    simp only [findText, find] at hx ⊢
    rw [find?_renamed (b := name) "addressOffset" (by decide), ← hcs]
    simp [svdNode_children, List.find?_append, hx, hxt]
  · have h1 := congrArg (List.any · (·.tag = .name "dim")) hcs
    simp only [svdNode_children, List.any_append, List.any_cons] at h1 ⊢
    simp only [leaf, Tag.name.injEq, String.reduceEq, decide_False, Bool.false_or] at h1 ⊢
    rw [← h1]
    simp [leaf]

/-- The flatten rule as `generate_register` applies it: a flattened register has a `<size>`
leaf with the field's width and no `<fields>`; any other register has no `<size>`, and has
a `<fields>` child exactly when its field list is present, even empty, holding the compiled
fields in input order. -/
theorem generateRegister_fields {reg : Reg} {base : Int} {node : Element}
    (h : generateRegister reg base = .ok node) :
    (∀ width, FlattensTo reg width →
      node.findText "size" = some (toString width) ∧ node.find "fields" = none) ∧
    ((∀ width, ¬FlattensTo reg width) → node.find "size" = none ∧
      (reg.fields = none → node.find "fields" = none) ∧
      ∀ fields, reg.fields = some fields → ∃ fieldNodes,
        List.Forall₂ (fun f n => generateField f = .ok n) fields fieldNodes ∧
        node.find "fields" = some (extendNode (new "fields") fieldNodes)) := by
  obtain ⟨size, modes, name, desc, off, fns, hs, -, -, -, -, hf, rfl⟩ := generateRegister_eq_ok h
  have hflat := flattenSize_eq_ok hs
  cases size with
  | some w =>
    obtain ⟨-, rfl⟩ | ⟨hfalse, -⟩ := generateAllFields_eq_ok hf
    · refine ⟨fun width hw => ?_, fun hno => absurd ((hflat w).1 rfl) (hno w)⟩
      obtain rfl : w = width := Option.some.inj ((hflat width).2 hw)
      simp [findText, find_extendNode, find_svdNode_new, registerTexts, accessTexts, leaf]
    · simp at hfalse
  | none =>
    refine ⟨fun width hw => absurd ((hflat width).2 hw) (by simp), fun _ => ?_⟩
    have hsize : ∀ n ∈ fns, n.tag = .name "fields" := fun n hn => (generateAllFields_plain hf n hn).2
    refine ⟨?_, fun hnone => ?_, fun fields hfields => ?_⟩
    · have hnf : fns.find? (·.tag = .name "size") = none :=
        List.find?_eq_none.2 fun n hn => by simp [hsize n hn]
      simp [find_extendNode, find_svdNode_new, registerTexts, accessTexts, hnf]
    · rw [hnone] at hf
      obtain ⟨-, rfl⟩ | ⟨-, fs, -, hfs, -⟩ := generateAllFields_eq_ok hf
      · simp [find_extendNode, find_svdNode_new, registerTexts, accessTexts]
      · exact absurd hfs (by simp)
    · rw [hfields] at hf
      obtain ⟨hno, -⟩ | ⟨-, fs, fieldNodes, hfs, hmap, rfl⟩ := generateAllFields_eq_ok hf
      · simp at hno
      · obtain rfl := Option.some.inj hfs
        exact ⟨fieldNodes, hmap, by simp [find_extendNode, find_svdNode_new, registerTexts,
          accessTexts]⟩

theorem generateRegister_fields_ctrl :
    let reg : Reg := { Reg.empty with
      name := some "CTRL", desc := some "Control", genoffset := some 4,
      fields := some [⟨some "ctrl", some "c", some (255, 8, 0), none⟩] }
    ∃ node, generateRegister reg 0 = .ok node ∧
      (∀ width, FlattensTo reg width →
        node.findText "size" = some (toString width) ∧ node.find "fields" = none) ∧
      ((∀ width, ¬FlattensTo reg width) → node.find "size" = none ∧
        (reg.fields = none → node.find "fields" = none) ∧
        ∀ fields, reg.fields = some fields → ∃ fieldNodes,
          List.Forall₂ (fun f n => generateField f = .ok n) fields fieldNodes ∧
          node.find "fields" = some (extendNode (new "fields") fieldNodes)) := by
  intro reg
  obtain ⟨node, h⟩ : ∃ node, generateRegister reg 0 = .ok node := ⟨_, rfl⟩
  exact ⟨node, h, generateRegister_fields h⟩

/-- A register whose field list is present but empty gets an empty `<fields>` child. -/
theorem generateRegister_emptyFields : ∃ node, generateRegister { Reg.empty with
      name := some "CTRL", desc := some "Control", genoffset := some 0, fields := some [] } 0 =
    .ok node ∧ node.find "fields" = some (extendNode (new "fields") []) :=
  ⟨_, rfl, rfl⟩

theorem hasPlaceholder_placeholderName (text : String) :
    hasPlaceholder (placeholderName text).toList = true := by
  unfold placeholderName
  split_ifs with h
  · exact h
  · exact hasPlaceholder_append_right text.toList

/-- The window naming invariant: a compiled window's name holds the `%s` placeholder, which is
appended only when the template's name lacks it. -/
theorem generateDimRegister_name {window : Reg} {base : Int} {node : Element}
    (h : generateDimRegister window base = .ok node) :
    ∃ name, window.name = some name ∧ node.findText "name" = some (placeholderName name) ∧
      hasPlaceholder (placeholderName name).toList = true ∧
      (hasPlaceholder name.toList = true → placeholderName name = name) := by
  obtain ⟨-, -, -, ⟨name, hname, hfind⟩, -⟩ := generateDimRegister_node h
  exact ⟨name, hname, hfind, hasPlaceholder_placeholderName name,
    fun hp => by rw [placeholderName, if_pos hp]⟩

theorem generateDimRegister_name_buffer :
    let window : Reg := { Reg.empty with
      name := some "BUFFER", desc := some "b", genoffset := some 16, items := some 4,
      genvalidbits := some 32 }
    ∃ node, generateDimRegister window 0 = .ok node ∧
      ∃ name, window.name = some name ∧ node.findText "name" = some (placeholderName name) ∧
        hasPlaceholder (placeholderName name).toList = true ∧
        (hasPlaceholder name.toList = true → placeholderName name = name) := by
  intro window
  obtain ⟨node, h⟩ : ∃ node, generateDimRegister window 0 = .ok node := ⟨_, rfl⟩
  exact ⟨node, h, generateDimRegister_name h⟩

end SvdGen
