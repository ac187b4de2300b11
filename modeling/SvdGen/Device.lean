import SvdGen.Clusters

/-! The device: `generate_all_interrupts`, `generate_peripheral`, `generate_peripherals`, the
hard-coded `generate_cpu` and the `<device>` root of `generate_device`.

Two results are about the whole tree. Every node of it is fresh (`generateDevice_fresh`), the
invariant `indent_tree` needs. And what a reader of the SVD sees of each peripheral, its
interrupts and the outline of its registers, is what the spec derives from the module and its
IP block (`generateDevice_outline`). -/
namespace SvdGen

open Element

/-- `generate_all_interrupts`: an `<interrupt>` per entry, valued by its index. -/
def generateAllInterrupts : Option (List Irq) → Except Error (List Element)
  | none => pure []
  | some irqs => irqs.enum.mapM fun (num, irq) => do
    let name ← getitem irq.name "name"
    pure (svdNode (new "interrupt") [("name", some name), ("value", some (toString num))])

/-- `generate_peripheral`. -/
def generatePeripheral (module : Module) (ip : Ip) : Except Error Element := do
  let registers := svdNode (new "registers") []
  let name ← getitem module.name "name"
  let baseAddr ← getitem module.baseAddr "base_addr"
  let peripheral := svdNode (new "peripheral") [("name", some name), ("baseAddress", some baseAddr)]
  let interrupts ← generateAllInterrupts ip.interruptList
  let regs ← getitem ip.registers "registers"
  let registerNodes ← generateAllRegisters regs 0
  pure (extendNode peripheral
    (interrupts ++ [extendNode registers registerNodes, comment ("end of " ++ name)]))

/-- `generate_peripherals`; `ips` is the dictionary of IP blocks by `type`. -/
def generatePeripherals (modules : List Module) (ips : String → Option Ip) :
    Except Error Element := do
  let peripherals ← modules.mapM fun module => do
    let type ← getitem module.type "type"
    let ip ← getitem (ips type) type
    generatePeripheral module ip
  pure (extendNode (svdNode (new "peripherals") []) peripherals)

/-- `generate_cpu`, with the texts the `pysvd` enumerations print. -/
def generateCpu : Element :=
  svdNode (new "cpu") [("name", some "other"), ("endian", some "little"), ("revision", some "0"),
    ("mpuPresent", some "false"), ("fpuPresent", some "false"), ("nvicPrioBits", some "0"),
    ("vendorSystickConfig", some "false")]

/-- The attributes of `<device>`. -/
def deviceAttrib : List (String × String) :=
  [("schemaVersion", "1.1"), ("xmlns:xs", "http://www.w3.org/2001/XMLSchema-instance"),
    ("xs:noNamespaceSchemaLocation", "CMSIS-SVD.xsd")]

/-- `generate_device`. -/
def generateDevice (top : Top) (ips : String → Option Ip) (version description : String) :
    Except Error Element := do
  let name ← getitem top.name "name"
  let datawidth ← getitem top.datawidth "datawidth"
  let device := svdNode { new "device" with attrib := deviceAttrib }
    [("vendor", some "lowRISC"), ("name", some name), ("version", some version),
      ("description", some description), ("width", some datawidth), ("size", some datawidth),
      ("addressUnitBits", some "8")]
  let modules ← getitem top.module "module"
  let peripherals ← generatePeripherals modules ips
  pure (extendNode device [generateCpu, peripherals])

/-! ### What each builder returns -/

/-- The `<interrupt>` node of entry `num`. -/
def interruptNode (name : String) (num : Nat) : Element :=
  svdNode (new "interrupt") [("name", some name), ("value", some (toString num))]

/-- The `<peripheral>` node `generate_peripheral` builds. -/
def peripheralNode (name baseAddr : String) (interrupts registerNodes : List Element) : Element :=
  extendNode (svdNode (new "peripheral") [("name", some name), ("baseAddress", some baseAddr)])
    (interrupts ++ [extendNode (svdNode (new "registers") []) registerNodes,
      comment ("end of " ++ name)])

theorem generateAllInterrupts_eq_ok {irqs : Option (List Irq)} {nodes : List Element} :
    generateAllInterrupts irqs = .ok nodes ↔ List.Forall₂
      (fun (e : Nat × Irq) node => ∃ name, e.2.name = some name ∧ interruptNode name e.1 = node)
      (irqs.getD []).enum nodes := by
  cases irqs with
  | none =>
    simp only [generateAllInterrupts, Option.getD_none, List.enum_nil, pure_eq_ok,
      List.forall₂_nil_left_iff]
    exact eq_comm
  | some irqs =>
    simp only [generateAllInterrupts, Option.getD_some, mapM_eq_ok, bind_eq_ok, getitem_eq_ok,
      pure_eq_ok, interruptNode]

theorem generatePeripheral_eq_ok {module : Module} {ip : Ip} {node : Element}
    (h : generatePeripheral module ip = .ok node) :
    ∃ name baseAddr interrupts regs registerNodes, module.name = some name ∧
      module.baseAddr = some baseAddr ∧ generateAllInterrupts ip.interruptList = .ok interrupts ∧
      ip.registers = some regs ∧ generateAllRegisters regs 0 = .ok registerNodes ∧
      node = peripheralNode name baseAddr interrupts registerNodes := by
  simp only [generatePeripheral, bind_eq_ok, getitem_eq_ok, pure_eq_ok] at h
  obtain ⟨name, hn, baseAddr, hb, interrupts, hi, regs, hr, registerNodes, hrn, rfl⟩ := h
  exact ⟨name, baseAddr, interrupts, regs, registerNodes, hn, hb, hi, hr, hrn, rfl⟩

theorem generatePeripherals_eq_ok {modules : List Module} {ips : String → Option Ip}
    {node : Element} (h : generatePeripherals modules ips = .ok node) :
    ∃ peripherals, List.Forall₂ (fun module p => ∃ type, module.type = some type ∧
        ∃ ip, ips type = some ip ∧ generatePeripheral module ip = .ok p) modules peripherals ∧
      node = extendNode (svdNode (new "peripherals") []) peripherals := by
  simp only [generatePeripherals, bind_eq_ok, mapM_eq_ok, getitem_eq_ok, pure_eq_ok] at h
  obtain ⟨peripherals, hps, rfl⟩ := h
  exact ⟨peripherals, hps, rfl⟩

theorem generateDevice_eq_ok {top : Top} {ips : String → Option Ip} {version description : String}
    {device : Element} (h : generateDevice top ips version description = .ok device) :
    ∃ name datawidth modules peripherals, top.name = some name ∧
      top.datawidth = some datawidth ∧ top.module = some modules ∧
      generatePeripherals modules ips = .ok peripherals ∧
      device = extendNode (svdNode { new "device" with attrib := deviceAttrib }
        [("vendor", some "lowRISC"), ("name", some name), ("version", some version),
          ("description", some description), ("width", some datawidth), ("size", some datawidth),
          ("addressUnitBits", some "8")]) [generateCpu, peripherals] := by
  simp only [generateDevice, bind_eq_ok, getitem_eq_ok, pure_eq_ok] at h
  obtain ⟨name, hn, datawidth, hd, modules, hm, peripherals, hp, rfl⟩ := h
  exact ⟨name, datawidth, modules, peripherals, hn, hd, hm, hp, rfl⟩

/-! ### Every node is fresh -/

section Fresh

variable {e : Element} {texts : List (String × Option String)} (htext : e.text = none)
  (htail : e.tail = none) (he : e.children = [])
include htext htail he

/-- `svd_node` on a fresh childless element makes a fresh tree. -/
theorem every_fresh_svdNode : Every FreshNode (svdNode e texts) :=
  every_svdNode (freshNode_of_text (by simp [htext]) (by simp [htail])) (by simp [he])
    fun t _ v _ => freshNode_leaf t.1 v

/-- Extending such a node by fresh trees keeps it a fresh tree. -/
theorem every_fresh_extendNode {es : List Element} (hes : ∀ c ∈ es, Every FreshNode c) :
    Every FreshNode (extendNode (svdNode e texts) es) :=
  every_extendNode (freshNode_of_text (by simp [htext]) (by simp [htail]))
    (every_iff.1 (every_fresh_svdNode htext htail he)).2 hes

end Fresh

theorem generateAllRegisters_fresh {regs : List Reg} {base : Int} {nodes : List Element}
    (h : generateAllRegisters regs base = .ok nodes) : ∀ n ∈ nodes, Every FreshNode n :=
  generateAllRegisters_forall (Q := fun _ n => Every FreshNode n)
    (fun _ _ _ h => (generateRegister_plain h).mono fun _ hn => hn.1)
    (fun _ _ _ h => (generateDimRegister_node h).1.mono fun _ hn => hn.1)
    (fun _ _ _ _ _ _ _ _ _ ih => every_fresh_extendNode rfl rfl rfl ih) regs base nodes h

theorem generateAllInterrupts_fresh {irqs : Option (List Irq)} {nodes : List Element}
    (h : generateAllInterrupts irqs = .ok nodes) : ∀ n ∈ nodes, Every FreshNode n := by
  intro n hn
  obtain ⟨_, _, name, -, rfl⟩ := exists_of_forall₂_mem (generateAllInterrupts_eq_ok.1 h) hn
  exact every_fresh_svdNode rfl rfl rfl

theorem generatePeripheral_fresh {module : Module} {ip : Ip} {node : Element}
    (h : generatePeripheral module ip = .ok node) : Every FreshNode node := by
  obtain ⟨name, baseAddr, interrupts, regs, registerNodes, -, -, hi, -, hr, rfl⟩ :=
    generatePeripheral_eq_ok h
  refine every_fresh_extendNode rfl rfl rfl fun c hc => ?_
  simp only [List.mem_append, List.mem_cons, List.mem_singleton, List.not_mem_nil, or_false] at hc
  rcases hc with hc | rfl | rfl
  · exact generateAllInterrupts_fresh hi c hc
  · exact every_fresh_extendNode rfl rfl rfl (generateAllRegisters_fresh hr)
  · exact every_comment.2 (freshNode_comment _)

/-- Every node of the tree `generate_device` returns has children or text, never both, and no
tail. -/
theorem generateDevice_fresh {top : Top} {ips : String → Option Ip} {version description : String}
    {device : Element} (h : generateDevice top ips version description = .ok device) :
    Every FreshNode device := by
  obtain ⟨name, datawidth, modules, peripherals, -, -, -, hp, rfl⟩ := generateDevice_eq_ok h
  obtain ⟨ps, hps, rfl⟩ := generatePeripherals_eq_ok hp
  refine every_fresh_extendNode rfl rfl rfl fun c hc => ?_
  simp only [List.mem_cons, List.mem_singleton, List.not_mem_nil, or_false] at hc
  rcases hc with rfl | rfl
  · exact every_fresh_svdNode rfl rfl rfl
  · refine every_fresh_extendNode rfl rfl rfl fun p hp => ?_
    obtain ⟨module, -, _, -, _, -, hgen⟩ := exists_of_forall₂_mem hps hp
    exact generatePeripheral_fresh hgen

/-! ### The outline of the registers -/

/-- What a reader of the SVD sees of a node of a register list. -/
inductive Outline where
  | register (name : Option String)
  | dimRegister (name : Option String)
  | cluster (name : Option String) (members : List Outline)
  | other
  deriving Repr

mutual
/-- The outline of a node: a `<cluster>` with the outlines of its members, a `<register>` with
or without `<dim>`, each with the text of its `<name>`. -/
def Element.outline : Element → Outline
  | e@⟨tag, _, _, _, children⟩ =>
    if tag = .name "cluster" then .cluster (e.findText "name") (outlineMembers children)
    else if tag = .name "register" then
      if children.any (·.tag = .name "dim") then .dimRegister (e.findText "name")
      else .register (e.findText "name")
    else .other

/-- The outlines of the `<register>` and `<cluster>` nodes of a list. -/
def outlineMembers : List Element → List Outline
  | [] => []
  | c :: cs =>
    if c.tag = .name "register" ∨ c.tag = .name "cluster" then c.outline :: outlineMembers cs
    else outlineMembers cs
end

mutual
/-- The spec's outline of a register list: same-address groups spliced in place, reserved and
skipto entries dropped, a window one dimensioned register named with its placeholder, a
multireg one cluster over its `genregs`, a plain register one register with its name. -/
def registersOutline : List Reg → List Outline
  | [] => []
  | reg :: regs => entryOutline reg ++ registersOutline regs

/-- The spec's outline of one entry. -/
def entryOutline : Reg → List Outline
  | { reserved := true, .. } | { skipto := true, .. } => []
  | { window := some window, .. } => [.dimRegister (window.name.map placeholderName)]
  | { sameaddr := some sameaddr, .. } => registersOutline sameaddr
  | { multireg := some multireg, .. } => [.cluster multireg.name (membersOutline multireg)]
  | reg => [.register reg.name]

/-- The spec's outline of the members of a multireg. -/
def membersOutline : Reg → List Outline
  | { genregs := some genregs, .. } => registersOutline genregs
  | _ => []
end

/-- The spec's outline of a flattened item. -/
def Item.outline : Item → Outline
  | .register reg => .register reg.name
  | .window template => .dimRegister (template.name.map placeholderName)
  | .cluster multireg => .cluster multireg.name (membersOutline multireg)

theorem entryOutline_eq (reg : Reg) : entryOutline reg = (match reg.entry with
    | .reserved => []
    | .window window => [.dimRegister (window.name.map placeholderName)]
    | .sameaddr sameaddr => registersOutline sameaddr
    | .multireg multireg => [.cluster multireg.name (membersOutline multireg)]
    | .register reg => [.register reg.name]) := by
  obtain ⟨_|_, _|_, _|_, _|_, _|_⟩ := reg <;> rfl

/-- The spec's outline is the outline of the flattened items. -/
theorem registersOutline_eq (regs : List Reg) :
    registersOutline regs = (flatten regs).map Item.outline := by
  induction regs using regList_induction with
  | nil => rfl
  | cons reg regs hsame _ ih =>
    show entryOutline reg ++ registersOutline regs = _
    rw [flatten_cons, List.map_append, ih, entryOutline_eq, flattenEntry_eq]
    cases h : reg.entry with
    | sameaddr g => dsimp only; rw [hsame g (Reg.sameaddr_of_entry h)]
    | _ => rfl

theorem outlineMembers_eq_map {nodes : List Element}
    (h : ∀ n ∈ nodes, n.tag = .name "register" ∨ n.tag = .name "cluster") :
    outlineMembers nodes = nodes.map Element.outline := by
  induction nodes with
  | nil => rfl
  | cons n ns ih =>
    simp only [List.mem_cons, forall_eq_or_imp] at h
    rw [outlineMembers, if_pos h.1, ih h.2, List.map_cons]

theorem outline_of_register {e : Element} (htag : e.tag = .name "register") :
    e.outline = if e.children.any (·.tag = .name "dim") then .dimRegister (e.findText "name")
      else .register (e.findText "name") := by
  obtain ⟨tag, _, _, _, _⟩ := e
  subst htag
  simp [Element.outline]

theorem outline_of_cluster {e : Element} (htag : e.tag = .name "cluster") :
    e.outline = .cluster (e.findText "name") (outlineMembers e.children) := by
  obtain ⟨tag, _, _, _, _⟩ := e
  subst htag
  simp [Element.outline]

theorem generateRegister_outline {reg : Reg} {base : Int} {node : Element}
    (h : generateRegister reg base = .ok node) : node.outline = .register reg.name := by
  obtain ⟨htag, -, ⟨name, hn, hfind⟩, -, hdim⟩ := generateRegister_node h
  have hany : node.children.any (·.tag = .name "dim") = false := by
    simpa [List.all_eq, List.any_eq] using hdim
  rw [outline_of_register htag, hany, if_neg Bool.false_ne_true, findText, hfind, hn]
  rfl

theorem generateDimRegister_outline {window : Reg} {base : Int} {node : Element}
    (h : generateDimRegister window base = .ok node) :
    node.outline = .dimRegister (window.name.map placeholderName) := by
  obtain ⟨-, htag, -, ⟨name, hn, hname⟩, -, hdim⟩ := generateDimRegister_node h
  rw [outline_of_register htag, if_pos hdim, hname, hn]
  rfl

theorem clusterNode_outline {name desc : String} {c : Int} {registers : List Element}
    (h : ∀ n ∈ registers, n.tag = .name "register" ∨ n.tag = .name "cluster") :
    (clusterNode name desc c registers).outline =
      .cluster (some name) (registers.map Element.outline) := by
  rw [outline_of_cluster rfl, ← outlineMembers_eq_map h]
  simp [clusterNode, outlineMembers, findText, find_extendNode, find_svdNode_new, leaf]

/-- The outline of what `generate_all_registers` returns is the spec's outline of the list. -/
theorem generateAllRegisters_outline {regs : List Reg} {base : Int} {nodes : List Element}
    (h : generateAllRegisters regs base = .ok nodes) :
    nodes.map Element.outline = registersOutline regs := by
  rw [registersOutline_eq]
  refine (map_eq_map_of_forall₂ (generateAllRegisters_forall₂
    (R := fun _ it n => it.outline = n.outline) (fun _ _ _ h => (generateRegister_outline h).symm)
    (fun _ _ _ h => (generateDimRegister_outline h).symm) ?_ regs base nodes h)).symm
  intro multi genregs _ _ name desc registers hg _ _ hn _ hr hall
  rw [clusterNode_outline (generateAllRegisters_tags hr), ← map_eq_map_of_forall₂ hall,
    ← registersOutline_eq, Item.outline, hn]
  obtain ⟨_, _, _, _, _, _⟩ := multi
  cases hg
  rfl

/-- What a reader of the SVD sees of a peripheral: its name, the name and value of each of its
interrupts, and the outline of its `<registers>`. -/
structure PeripheralOutline where
  name : Option String
  interrupts : List (Option String × Option String)
  registers : Option (List Outline)
  deriving Repr

/-- The outline of a `<peripheral>` node. -/
def Element.peripheralOutline (p : Element) : PeripheralOutline :=
  ⟨p.findText "name", (p.findAll "interrupt").map fun i => (i.findText "name", i.findText "value"),
    (p.find "registers").map fun r => r.children.map Element.outline⟩

/-- The spec's outline of the peripheral of a module: one interrupt per entry of its
`interrupt_list`, valued by its index, and the outline of its register list. -/
def expectedPeripheral (module : Module) (ip : Ip) : PeripheralOutline :=
  ⟨module.name, (ip.interruptList.getD []).enum.map fun (num, irq) => (irq.name, some (toString num)),
    ip.registers.map registersOutline⟩

theorem interruptNode_texts (name : String) (num : Nat) :
    ((interruptNode name num).findText "name", (interruptNode name num).findText "value") =
      (some name, some (toString num)) := by
  simp [interruptNode, findText, find_svdNode_new, leaf]

theorem peripheralNode_outline {name baseAddr : String} {interrupts registerNodes : List Element}
    (h : ∀ i ∈ interrupts, i.tag = .name "interrupt") :
    (peripheralNode name baseAddr interrupts registerNodes).peripheralOutline =
      ⟨some name, interrupts.map fun i => (i.findText "name", i.findText "value"),
        some (registerNodes.map Element.outline)⟩ := by
  have hall : interrupts.filter (·.tag = .name "interrupt") = interrupts :=
    List.filter_eq_self.2 fun i hi => by simp [h i hi]
  have hnone : interrupts.find? (·.tag = .name "registers") = none :=
    List.find?_eq_none.2 fun i hi => by simp [h i hi]
  simp [peripheralNode, Element.peripheralOutline, findText, findAll, find, List.filter_append,
    List.find?_append, hall, hnone, leaf, comment]

theorem generatePeripheral_outline {module : Module} {ip : Ip} {p : Element}
    (h : generatePeripheral module ip = .ok p) :
    p.tag = .name "peripheral" ∧ p.peripheralOutline = expectedPeripheral module ip := by
  obtain ⟨name, baseAddr, interrupts, regs, registerNodes, hn, -, hi, hr, hrn, rfl⟩ :=
    generatePeripheral_eq_ok h
  have hirq := generateAllInterrupts_eq_ok.1 hi
  have htags : ∀ i ∈ interrupts, i.tag = .name "interrupt" := by
    intro i hi
    obtain ⟨_, _, _, -, rfl⟩ := exists_of_forall₂_mem hirq hi
    rfl
  refine ⟨rfl, ?_⟩
  rw [peripheralNode_outline htags, expectedPeripheral, hn, hr, Option.map_some',
    generateAllRegisters_outline hrn, map_eq_map_of_forall₂ (hirq.imp ?_)]
  rintro ⟨num, irq⟩ _ ⟨name, hname, rfl⟩
  dsimp only at hname ⊢
  rw [interruptNode_texts, hname]

/-- The peripherals of the device are one per module, in order; each carries the module's
name, one interrupt per entry of its IP block's `interrupt_list` valued by its index, and
under `<registers>` exactly the spec's outline of the IP block's register list. -/
theorem generateDevice_outline {top : Top} {ips : String → Option Ip}
    {version description : String} {device : Element}
    (h : generateDevice top ips version description = .ok device) :
    ∃ modules peripherals, top.module = some modules ∧ device.find "peripherals" = some peripherals ∧
      List.Forall₂ (fun module p => ∃ type ip, module.type = some type ∧ ips type = some ip ∧
        p.tag = .name "peripheral" ∧ p.peripheralOutline = expectedPeripheral module ip)
        modules peripherals.children := by
  obtain ⟨name, datawidth, modules, peripherals, -, -, hm, hp, rfl⟩ := generateDevice_eq_ok h
  obtain ⟨ps, hps, rfl⟩ := generatePeripherals_eq_ok hp
  refine ⟨modules, extendNode (svdNode (new "peripherals") []) ps, hm,
    by simp [find, generateCpu, leaf], ?_⟩
  simp only [extendNode_children, svdNode_children, new_children, List.filterMap_nil,
    List.append_nil, List.nil_append]
  refine hps.imp fun module p ⟨type, htype, ip, hip, hgen⟩ => ?_
  exact ⟨type, ip, htype, hip, generatePeripheral_outline hgen⟩

theorem generateDevice_outline_uart :
    let ctrl : Reg := { Reg.empty with name := some "CTRL", desc := some "c", genoffset := some 0 }
    let top : Top := ⟨some "top", some "32", some [⟨some "uart0", some "uart", some "0x40000000"⟩]⟩
    let ips (type : String) : Option Ip :=
      if type = "uart" then some ⟨some [⟨some "tx"⟩, ⟨some "rx"⟩], some [ctrl]⟩ else none
    ∃ device, generateDevice top ips "1.0" "test" = .ok device ∧
      ∃ modules peripherals, top.module = some modules ∧ device.find "peripherals" = some peripherals ∧
        List.Forall₂ (fun module p => ∃ type ip, module.type = some type ∧ ips type = some ip ∧
          p.tag = .name "peripheral" ∧ p.peripheralOutline = expectedPeripheral module ip)
          modules peripherals.children := by
  intro ctrl top ips
  obtain ⟨device, h⟩ : ∃ device, generateDevice top ips "1.0" "test" = .ok device := ⟨_, rfl⟩
  exact ⟨device, h, generateDevice_outline h⟩

end SvdGen
