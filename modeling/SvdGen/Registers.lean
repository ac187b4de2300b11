import Mathlib.Data.List.MinMax
import SvdGen.Register

/-! The register list: `read_genoffset`, `generate_cluster` and `generate_all_registers`,
which dispatch each entry on the keys it has. Beside them, the spec's reading of that
dispatch (`Reg.entry`, `flatten`) and the equation that connects the two. -/
namespace SvdGen

open Element

/-- `read_genoffset`: the entry's own `genoffset`, else its window's. -/
def readGenoffset (reg : Reg) : Except Error Int :=
  match reg.genoffset with
  | some genoffset => pure genoffset
  | none =>
    match reg.window with
    | some window => getitem window.genoffset "genoffset"
    | none => throw (.missingGenoffset reg)

/-- Python's `min` on a list of offsets: `ValueError` on an empty one. -/
def pyMin (offsets : List Int) : Except Error Int :=
  match offsets.min? with
  | some m => pure m
  | none => throw .emptyMin

mutual
/-- `generate_cluster`. -/
def generateCluster : Reg → Int → Except Error Element
  | multi, base =>
    if base ≠ 0 then throw .nestedMultireg else
    match multi with
    | { genregs := some genregs, .. } => do
      let base ← pyMin (← genregs.mapM readGenoffset)
      let name ← getitem multi.name "name"
      let desc ← getitem multi.desc "desc"
      let cluster := svdNode (new "cluster")
        [("name", some name), ("description", some desc), ("addressOffset", hexOrNone (some base))]
      let registers ← generateAllRegisters genregs base
      pure (extendNode cluster registers)
    | _ => throw (.keyError "genregs")

/-- `generate_all_registers`; its loop body is `generateEntry`. -/
def generateAllRegisters : List Reg → Int → Except Error (List Element)
  | [], _ => pure []
  | reg :: regs, base => do
    let nodes ← generateEntry reg base
    let rest ← generateAllRegisters regs base
    pure (nodes ++ rest)

/-- One pass of the loop of `generate_all_registers`: its `if`/`elif` chain on the keys. -/
def generateEntry : Reg → Int → Except Error (List Element)
  | { reserved := true, .. }, _ | { skipto := true, .. }, _ => pure []
  | { window := some window, .. }, base => do pure [← generateDimRegister window base]
  | { sameaddr := some sameaddr, .. }, base => generateAllRegisters sameaddr base
  | { multireg := some multireg, .. }, base => do pure [← generateCluster multireg base]
  | reg, base => do pure [← generateRegister reg base]
end

@[simp] theorem generateAllRegisters_nil (base : Int) : generateAllRegisters [] base = pure [] := rfl

theorem generateAllRegisters_cons (reg : Reg) (regs : List Reg) (base : Int) :
    generateAllRegisters (reg :: regs) base = (do
      let nodes ← generateEntry reg base
      let rest ← generateAllRegisters regs base
      pure (nodes ++ rest)) := rfl

/-- The spec's `RegisterEntry`: the branch `generate_all_registers` takes for an entry. -/
inductive Entry where
  | reserved
  | window (window : Reg)
  | sameaddr (sameaddr : List Reg)
  | multireg (multireg : Reg)
  | register (reg : Reg)

/-- The kind of an entry, the first of reserved/skipto, window, sameaddr, multireg winning. -/
def Reg.entry : Reg → Entry
  | { reserved := true, .. } | { skipto := true, .. } => .reserved
  | { window := some window, .. } => .window window
  | { sameaddr := some sameaddr, .. } => .sameaddr sameaddr
  | { multireg := some multireg, .. } => .multireg multireg
  | reg => .register reg

theorem generateEntry_eq (reg : Reg) (base : Int) : generateEntry reg base = (match reg.entry with
    | .reserved => pure []
    | .window window => do pure [← generateDimRegister window base]
    | .sameaddr sameaddr => generateAllRegisters sameaddr base
    | .multireg multireg => do pure [← generateCluster multireg base]
    | .register reg => do pure [← generateRegister reg base]) := by
  obtain ⟨_|_, _|_, _|_, _|_, _|_⟩ := reg <;> rfl

theorem Reg.window_of_entry {reg window : Reg} (h : reg.entry = .window window) :
    reg.window = some window := by
  obtain ⟨_|_, _|_, _|_, _|_, _|_⟩ := reg <;> cases h <;> rfl

theorem Reg.window_of_entry_register {reg r : Reg} (h : reg.entry = .register r) :
    reg.window = none := by
  obtain ⟨_|_, _|_, _|_, _|_, _|_⟩ := reg <;> cases h
  rfl

theorem Reg.sameaddr_of_entry {reg : Reg} {sameaddr : List Reg} (h : reg.entry = .sameaddr sameaddr) :
    reg.sameaddr = some sameaddr := by
  obtain ⟨_|_, _|_, _|_, _|_, _|_⟩ := reg <;> cases h <;> rfl

theorem Reg.multireg_of_entry {reg : Reg} {multireg : Reg} (h : reg.entry = .multireg multireg) :
    reg.multireg = some multireg := by
  obtain ⟨_|_, _|_, _|_, _|_, _|_⟩ := reg <;> cases h
  rfl

theorem Reg.entry_of_reserved {reg : Reg} (h : reg.reserved = true ∨ reg.skipto = true) :
    reg.entry = .reserved := by
  obtain ⟨_|_, _|_, _|_, _|_, _|_⟩ := reg <;> first | rfl | simp at h

mutual
/-- Induction over register lists that may recurse into same-address groups and into the
`genregs` of multiregs. -/
theorem regList_induction {motive : List Reg → Prop} (nil : motive [])
    (cons : ∀ reg regs, (∀ g, reg.sameaddr = some g → motive g) →
      (∀ m gs, reg.multireg = some m → m.genregs = some gs → motive gs) →
      motive regs → motive (reg :: regs)) : (regs : List Reg) → motive regs
  | [] => nil
  | reg :: regs => cons reg regs (sameaddr_induction nil cons reg) (multireg_induction nil cons reg)
      (regList_induction nil cons regs)

theorem sameaddr_induction {motive : List Reg → Prop} (nil : motive [])
    (cons : ∀ reg regs, (∀ g, reg.sameaddr = some g → motive g) →
      (∀ m gs, reg.multireg = some m → m.genregs = some gs → motive gs) →
      motive regs → motive (reg :: regs)) : ∀ (reg : Reg) (g : List Reg), reg.sameaddr = some g → motive g
  | { sameaddr := some g', .. }, _, hg => Option.some.inj hg ▸ regList_induction nil cons g'
  | { sameaddr := none, .. }, _, hg => by cases hg

theorem multireg_induction {motive : List Reg → Prop} (nil : motive [])
    (cons : ∀ reg regs, (∀ g, reg.sameaddr = some g → motive g) →
      (∀ m gs, reg.multireg = some m → m.genregs = some gs → motive gs) →
      motive regs → motive (reg :: regs)) :
    ∀ (reg m : Reg) (gs : List Reg), reg.multireg = some m → m.genregs = some gs → motive gs
  | { multireg := some { genregs := some gs', .. }, .. }, _, _, hm, hgs => by
    cases hm; cases hgs; exact regList_induction nil cons gs'
  | { multireg := some { genregs := none, .. }, .. }, _, _, hm, hgs => by cases hm; cases hgs
  | { multireg := none, .. }, _, _, hm, _ => by cases hm
end

/-- What an entry compiles to, in the spec's words. -/
inductive Item where
  | register (reg : Reg)
  | window (window : Reg)
  | cluster (multireg : Reg)

mutual
/-- The spec's flattening of a register list: same-address groups spliced in place,
reserved and skipto entries dropped. -/
def flatten : List Reg → List Item
  | [] => []
  | reg :: regs => flattenEntry reg ++ flatten regs

/-- The items of one entry. -/
def flattenEntry : Reg → List Item
  | { reserved := true, .. } | { skipto := true, .. } => []
  | { window := some window, .. } => [.window window]
  | { sameaddr := some sameaddr, .. } => flatten sameaddr
  | { multireg := some multireg, .. } => [.cluster multireg]
  | reg => [.register reg]
end

@[simp] theorem flatten_nil : flatten [] = [] := rfl
@[simp] theorem flatten_cons (reg : Reg) (regs : List Reg) :
    flatten (reg :: regs) = flattenEntry reg ++ flatten regs := rfl

@[simp] theorem flatten_append (l₁ l₂ : List Reg) : flatten (l₁ ++ l₂) = flatten l₁ ++ flatten l₂ := by
  induction l₁ with
  | nil => rfl
  | cons r l₁ ih => simp [ih]

theorem flattenEntry_eq (reg : Reg) : flattenEntry reg = (match reg.entry with
    | .reserved => []
    | .window window => [.window window]
    | .sameaddr sameaddr => flatten sameaddr
    | .multireg multireg => [.cluster multireg]
    | .register reg => [.register reg]) := by
  obtain ⟨_|_, _|_, _|_, _|_, _|_⟩ := reg <;> rfl

/-- The builder of each kind of item. -/
def Item.generate (base : Int) : Item → Except Error Element
  | .register reg => generateRegister reg base
  | .window template => generateDimRegister template base
  | .cluster multireg => generateCluster multireg base

/-- `generate_all_registers` is the spec's flattening followed by one builder per item, in
order: no entry is lost, duplicated or reordered, and errors surface in the same order. -/
theorem generateAllRegisters_eq (regs : List Reg) (base : Int) :
    generateAllRegisters regs base = (flatten regs).mapM (·.generate base) := by
  induction regs using regList_induction with
  | nil => rfl
  | cons reg regs hsame _ ih =>
    rw [generateAllRegisters_cons, generateEntry_eq, flatten_cons, flattenEntry_eq, List.mapM_append,
      ih]
    cases h : reg.entry with
    | sameaddr g => dsimp only; rw [hsame g (Reg.sameaddr_of_entry h)]
    | _ => simp only [List.mapM_cons, List.mapM_nil, Item.generate, bind_assoc, pure_bind,
        List.nil_append, List.singleton_append]

theorem generateAllRegisters_eq_ok {regs : List Reg} {base : Int} {nodes : List Element} :
    generateAllRegisters regs base = .ok nodes ↔
      List.Forall₂ (fun item node => item.generate base = .ok node) (flatten regs) nodes := by
  rw [generateAllRegisters_eq, mapM_eq_ok]

theorem pyMin_eq_ok {offsets : List Int} {m : Int} :
    pyMin offsets = .ok m ↔ m ∈ offsets ∧ ∀ x ∈ offsets, m ≤ x := by
  have : Std.Antisymm (α := Int) (· ≤ ·) := ⟨fun h₁ h₂ => Int.le_antisymm h₁ h₂⟩
  rw [← List.min?_eq_some_iff (fun _ => le_refl _) (fun a b => min_choice a b)
    (fun _ _ _ => le_min_iff)]
  unfold pyMin
  split <;> simp_all

/-- The `<cluster>` node `generate_cluster` builds around its registers. -/
def clusterNode (name desc : String) (base : Int) (registers : List Element) : Element :=
  extendNode (svdNode (new "cluster")
    [("name", some name), ("description", some desc), ("addressOffset", hexOrNone (some base))])
    registers

/-- `generate_cluster` with its match on the multireg's keys read as one on `genregs`. -/
theorem generateCluster_eq (multi : Reg) (base : Int) : generateCluster multi base =
    if base ≠ 0 then throw .nestedMultireg else
    match multi.genregs with
    | some genregs => do
      let base ← pyMin (← genregs.mapM readGenoffset)
      let name ← getitem multi.name "name"
      let desc ← getitem multi.desc "desc"
      let registers ← generateAllRegisters genregs base
      pure (clusterNode name desc base registers)
    | none => throw (.keyError "genregs") := by
  obtain ⟨_, _, _, _, _, _ | _, _⟩ := multi <;> rfl

theorem generateCluster_of_ne_zero (multi : Reg) {base : Int} (h : base ≠ 0) :
    generateCluster multi base = throw .nestedMultireg := by
  rw [generateCluster_eq, if_pos h]

theorem generateCluster_eq_ok {multi : Reg} {base : Int} {node : Element}
    (h : generateCluster multi base = .ok node) :
    base = 0 ∧ ∃ genregs offsets c name desc registers, multi.genregs = some genregs ∧
      List.Forall₂ (fun r o => readGenoffset r = .ok o) genregs offsets ∧
      pyMin offsets = .ok c ∧ multi.name = some name ∧ multi.desc = some desc ∧
      generateAllRegisters genregs c = .ok registers ∧ node = clusterNode name desc c registers := by
  by_cases hb : base = 0
  · rw [generateCluster_eq, if_neg (not_not.2 hb)] at h
    refine ⟨hb, ?_⟩
    split at h
    · simp only [bind_eq_ok, mapM_eq_ok, getitem_eq_ok, pure_eq_ok] at h
      obtain ⟨offsets, ho, c, hc, name, hn, desc, hd, registers, hr, rfl⟩ := h
      exact ⟨_, offsets, c, name, desc, registers, ‹_›, ho, hc, hn, hd, hr, rfl⟩
    · exact absurd h throw_ne_ok
  · exact absurd (generateCluster_of_ne_zero multi hb ▸ h) throw_ne_ok

section Run

variable {R : Int → Item → Element → Prop}
  (hreg : ∀ reg base node, generateRegister reg base = .ok node → R base (.register reg) node)
  (hwin : ∀ window base node, generateDimRegister window base = .ok node →
    R base (.window window) node)
  (hclu : ∀ multi genregs offsets c name desc registers, multi.genregs = some genregs →
    List.Forall₂ (fun r o => readGenoffset r = .ok o) genregs offsets → pyMin offsets = .ok c →
    multi.name = some name → multi.desc = some desc → generateAllRegisters genregs c = .ok registers →
    List.Forall₂ (R c) (flatten genregs) registers → R 0 (.cluster multi) (clusterNode name desc c registers))
include hreg hwin hclu

/-- The run lemma of `generate_all_registers`: a relation that every compiled register and
window bears to its source, and that a cluster bears to its multireg whenever the registers
inside it bear it to the multireg's items at the cluster's base, relates every item of the
flattened list to the node compiled from it. -/
theorem generateAllRegisters_forall₂ (regs : List Reg) : ∀ base nodes,
    generateAllRegisters regs base = .ok nodes → List.Forall₂ (R base) (flatten regs) nodes := by
  induction regs using regList_induction with
  | nil => intro base nodes h; obtain rfl := (pure_eq_ok.1 h).symm; exact .nil
  | cons reg regs hsame hmulti ih =>
    intro base nodes h
    simp only [generateAllRegisters_cons, bind_eq_ok, pure_eq_ok] at h
    obtain ⟨here, hhere, rest, hrest, rfl⟩ := h
    rw [flatten_cons]
    refine List.rel_append ?_ (ih base rest hrest)
    rw [generateEntry_eq] at hhere
    rw [flattenEntry_eq]
    cases he : reg.entry <;> simp only [he, bind_eq_ok, pure_eq_ok] at hhere ⊢
    case reserved => rw [← hhere]; exact .nil
    case window => obtain ⟨node, hnode, rfl⟩ := hhere; exact .cons (hwin _ _ _ hnode) .nil
    case sameaddr g => exact hsame g (Reg.sameaddr_of_entry he) base here hhere
    case register => obtain ⟨node, hnode, rfl⟩ := hhere; exact .cons (hreg _ _ _ hnode) .nil
    case multireg m =>
      obtain ⟨node, hnode, rfl⟩ := hhere
      obtain ⟨rfl, gs, offsets, c, name, desc, registers, hg, ho, hc, hn, hd, hr, rfl⟩ :=
        generateCluster_eq_ok hnode
      exact .cons (hclu m gs offsets c name desc registers hg ho hc hn hd hr
        (hmulti m gs (Reg.multireg_of_entry he) hg c registers hr)) .nil

end Run

section Every

variable {Q : Int → Element → Prop}
  (hreg : ∀ reg base node, generateRegister reg base = .ok node → Q base node)
  (hwin : ∀ window base node, generateDimRegister window base = .ok node → Q base node)
  (hclu : ∀ genregs offsets c name desc registers,
    List.Forall₂ (fun r o => readGenoffset r = .ok o) genregs offsets → pyMin offsets = .ok c →
    generateAllRegisters genregs c = .ok registers → (∀ n ∈ registers, Q c n) →
    Q 0 (clusterNode name desc c registers))
include hreg hwin hclu

/-- A property that every compiled register and window has, and that a cluster has whenever
the registers inside it have it at the cluster's base, holds of every node
`generate_all_registers` returns. -/
theorem generateAllRegisters_forall (regs : List Reg) (base : Int) (nodes : List Element)
    (h : generateAllRegisters regs base = .ok nodes) : ∀ n ∈ nodes, Q base n := by
  have hall := generateAllRegisters_forall₂ (R := fun base _ n => Q base n)
    (fun _ _ _ h => hreg _ _ _ h) (fun _ _ _ h => hwin _ _ _ h)
    (fun _ _ offsets c name desc registers _ ho hc _ _ hr hq =>
      hclu _ offsets c name desc registers ho hc hr (forall_of_forall₂ hq))
    regs base nodes h
  exact forall_of_forall₂ hall

end Every

end SvdGen
