import SvdGen.Registers

/-! Clusters. `generate_cluster` places a multireg at the least `genoffset` it reads from its
`genregs` and its registers relative to that base; it refuses any incoming base other than
zero, which is how it rejects nesting. -/
namespace SvdGen

open Element

namespace Element

/-- A `<cluster>` node. -/
def IsCluster (e : Element) : Prop := e.tag = .name "cluster"

/-- The `<register>` and `<cluster>` children of a node, in order. -/
def members (e : Element) : List Element :=
  e.children.filter fun c => c.tag = .name "register" || c.tag = .name "cluster"

theorem mem_nodes {n e : Element} : n ∈ e.nodes ↔ n = e ∨ ∃ c ∈ e.children, n ∈ c.nodes := by
  rw [nodes_eq, List.mem_cons, mem_nodesList]

end Element

@[simp] theorem clusterNode_tag (name desc : String) (c : Int) (registers : List Element) :
    (clusterNode name desc c registers).tag = .name "cluster" := rfl

theorem clusterNode_addressOffset (name desc : String) (c : Int) (registers : List Element) :
    (clusterNode name desc c registers).findText "addressOffset" = some (hex c) := by
  simp [clusterNode, findText, find_extendNode, find_svdNode_new, leaf]

theorem clusterNode_members {name desc : String} {c : Int} {registers : List Element}
    (h : ∀ n ∈ registers, n.tag = .name "register" ∨ n.tag = .name "cluster") :
    (clusterNode name desc c registers).members = registers := by
  have hkeep : registers.filter (fun c => c.tag = .name "register" || c.tag = .name "cluster") =
      registers :=
    List.filter_eq_self.2 fun n hn => by rcases h n hn with h | h <;> simp [h]
  simp [members, clusterNode, List.filter_append, hkeep, leaf]

/-- The children of a cluster: its three text leaves, then its registers. -/
theorem mem_clusterNode_children {name desc : String} {c : Int} {registers : List Element}
    {x : Element} (hx : x ∈ (clusterNode name desc c registers).children) :
    (¬x.IsCluster ∧ x.children = []) ∨ x ∈ registers := by
  simp only [clusterNode, extendNode_children, svdNode_children, new_children, List.nil_append,
    List.mem_append, List.mem_filterMap] at hx
  rcases hx with ⟨t, ht, hxt⟩ | hx
  · obtain ⟨v, -, rfl⟩ := Option.map_eq_some'.1 hxt
    left
    rcases ht with _ | ⟨_, _ | ⟨_, _ | ⟨_, ⟨⟩⟩⟩⟩ <;> simp [IsCluster, leaf]
  · exact .inr hx

theorem nodes_of_children_nil {e : Element} (h : e.children = []) : e.nodes = [e] := by
  rw [nodes_eq, h, nodesList_nil]

/-- The nodes below a cluster: its text leaves, and what is in its registers. -/
theorem mem_clusterNode_below {name desc : String} {c : Int} {registers : List Element}
    {n : Element} (hn : n ∈ nodesList (clusterNode name desc c registers).children) :
    ¬n.IsCluster ∨ ∃ r ∈ registers, n ∈ r.nodes := by
  obtain ⟨x, hx, hnx⟩ := mem_nodesList.1 hn
  rcases mem_clusterNode_children hx with ⟨hxc, hxn⟩ | hx
  · rw [nodes_of_children_nil hxn, List.mem_singleton] at hnx
    exact .inl (hnx ▸ hxc)
  · exact .inr ⟨x, hx, hnx⟩

/-- Every node `generate_all_registers` returns is a `<register>` or a `<cluster>`. -/
theorem generateAllRegisters_tags {regs : List Reg} {base : Int} {nodes : List Element}
    (h : generateAllRegisters regs base = .ok nodes) :
    ∀ n ∈ nodes, n.tag = .name "register" ∨ n.tag = .name "cluster" :=
  generateAllRegisters_forall (Q := fun _ n => n.tag = .name "register" ∨ n.tag = .name "cluster")
    (fun _ _ _ h => .inl (generateRegister_node h).1)
    (fun _ _ _ h => .inl (generateDimRegister_node h).2.1)
    (fun _ _ _ _ _ _ _ _ _ _ => .inr rfl) regs base nodes h

/-- A tree without any `<cluster>`. -/
def NoCluster (e : Element) : Prop := ∀ n ∈ e.nodes, ¬n.IsCluster

/-- Every cluster of a node list that has a cluster below it sits at offset `0x0`. -/
def NestsOnlyAtZero (nodes : List Element) : Prop :=
  ∀ n ∈ nodesList nodes, n.IsCluster → (∃ d ∈ nodesList n.children, d.IsCluster) →
    n.findText "addressOffset" = some (hex 0)

theorem noCluster_of_plain {e : Element} (h : Every Plain e) : NoCluster e :=
  fun n hn => (h n hn).2

/-- The step of the nesting argument: a node compiled at a non-zero base has no cluster in
it, and a cluster with a cluster below it sits at `0x0`. -/
theorem generateAllRegisters_nesting {regs : List Reg} {base : Int} {nodes : List Element}
    (h : generateAllRegisters regs base = .ok nodes) :
    ∀ t ∈ nodes, (base ≠ 0 → NoCluster t) ∧ NestsOnlyAtZero [t] := by
  refine generateAllRegisters_forall (Q := fun base t => (base ≠ 0 → NoCluster t) ∧ NestsOnlyAtZero [t])
    (fun _ _ _ h => ?_) (fun _ _ _ h => ?_) (fun _ _ c name desc registers _ _ _ ih => ?_) regs base
    nodes h
  · have hnc := noCluster_of_plain (generateRegister_plain h)
    exact ⟨fun _ => hnc, fun n hn hc => absurd hc (hnc n (by simpa using hn))⟩
  · have hnc := noCluster_of_plain (generateDimRegister_node h).1
    exact ⟨fun _ => hnc, fun n hn hc => absurd hc (hnc n (by simpa using hn))⟩
  · refine ⟨fun h0 => absurd rfl h0, fun n hn hc hbelow => ?_⟩
    simp only [nodesList_cons, nodesList_nil, List.append_nil] at hn
    rcases mem_nodes.1 hn with rfl | ⟨x, hx, hnx⟩
    · obtain ⟨d, hd, hdc⟩ := hbelow
      obtain rfl : c = 0 := by
        by_contra hc0
        rcases mem_clusterNode_below hd with hd | ⟨r, hr, hdr⟩
        exacts [hd hdc, (ih r hr).1 hc0 d hdr hdc]
      exact clusterNode_addressOffset _ _ _ _
    · rcases mem_clusterNode_below (mem_nodesList.2 ⟨x, hx, hnx⟩) with hnc | ⟨r, hr, hnr⟩
      · exact absurd hc hnc
      · exact (ih r hr).2 n (by simpa using hnr) hc hbelow

/-- If `generate_all_registers(regs, 0)` returns, a cluster holds another cluster only when its
own `addressOffset` is `0x0`. At any other incoming base, which inside a cluster is the
cluster's least offset, the first multireg reached raises the nested-multireg error, unless an
entry before it raised first. -/
theorem generateAllRegisters_nestsOnlyAtZero :
    (∀ {regs : List Reg} {nodes : List Element}, generateAllRegisters regs 0 = .ok nodes →
      NestsOnlyAtZero nodes) ∧
    ∀ {regs : List Reg} {base : Int} {pre post : List Item} {multi : Reg}, base ≠ 0 →
      flatten regs = pre ++ .cluster multi :: post → (∀ it ∈ pre, ∃ node, it.generate base = .ok node) →
      generateAllRegisters regs base = .error .nestedMultireg := by
  refine ⟨fun h n hn => ?_, @fun regs base pre post multi hb hflat hpre => ?_⟩
  · obtain ⟨t, ht, hnt⟩ := mem_nodesList.1 hn
    exact (generateAllRegisters_nesting h t ht).2 n (by simpa using hnt)
  · rw [generateAllRegisters_eq, hflat]
    exact mapM_eq_error (f := Item.generate base) (a := .cluster multi)
      (generateCluster_of_ne_zero multi hb) post hpre

theorem generateAllRegisters_nestsOnlyAtZero_nested :
    let reg : Reg := { Reg.empty with name := some "R", desc := some "r", genoffset := some 0 }
    let inner : Reg := { Reg.empty with name := some "I", desc := some "i", genregs := some [reg] }
    let outer : Reg := { Reg.empty with multireg := some { Reg.empty with
      name := some "O", desc := some "o",
      genregs := some [{ Reg.empty with multireg := some inner, genoffset := some 0 }] } }
    (∃ nodes, generateAllRegisters [outer] 0 = .ok nodes ∧ NestsOnlyAtZero nodes) ∧
      generateAllRegisters [{ Reg.empty with multireg := some inner }] 4 = .error .nestedMultireg := by
  intro reg inner outer
  obtain ⟨nodes, h⟩ : ∃ nodes, generateAllRegisters [outer] 0 = .ok nodes := ⟨_, rfl⟩
  exact ⟨⟨nodes, h, generateAllRegisters_nestsOnlyAtZero.1 h⟩,
    generateAllRegisters_nestsOnlyAtZero.2 (by decide)
      (show flatten [{ Reg.empty with multireg := some inner }] = [] ++ [.cluster inner] from rfl) nofun⟩

/-- A multireg inside a multireg. As reggen writes the inner entry, without a `genoffset`, the
call raises the missing-genoffset error rather than the nested-multireg one; with a
`genoffset` of 0 on it, the call returns a cluster inside a cluster. -/
theorem generateAllRegisters_nestedMultireg :
    let reg : Reg := { Reg.empty with name := some "R", desc := some "r", genoffset := some 0 }
    let inner : Reg := { Reg.empty with name := some "I", desc := some "i", genregs := some [reg] }
    let outer (entry : Reg) : Reg := { Reg.empty with multireg := some { Reg.empty with
      name := some "O", desc := some "o", genregs := some [entry] } }
    generateAllRegisters [outer { Reg.empty with multireg := some inner }] 0 =
        .error (.missingGenoffset { Reg.empty with multireg := some inner }) ∧
      ∃ outerNode innerNode, generateAllRegisters
          [outer { Reg.empty with multireg := some inner, genoffset := some 0 }] 0 = .ok [outerNode] ∧
        outerNode.IsCluster ∧ outerNode.members = [innerNode] ∧ innerNode.IsCluster :=
  ⟨rfl, _, _, rfl, rfl, rfl, rfl⟩

/-- The absolute offset of the register an item compiles to: the register's own `genoffset`,
or the window template's. -/
def Item.absOffset : Item → Option Int
  | .register reg => reg.genoffset
  | .window template => template.genoffset
  | .cluster _ => none

/-- A `genregs` entry as the spec's data model has it: a plain register, or a window whose
entry carries no `genoffset` of its own other than its template's. -/
def Reg.IsMember (e : Reg) : Prop :=
  e.entry = .register e ∨ ∃ w, e.entry = .window w ∧ ∀ g, e.genoffset = some g → w.genoffset = some g

/-- Every multireg the compiler reaches has only such entries in its `genregs`. -/
def MembersRegisterLike (regs : List Reg) : Prop :=
  ∀ m, Item.cluster m ∈ flatten regs → ∀ gs, m.genregs = some gs → ∀ e ∈ gs, e.IsMember

/-- Every absolute offset the compiler reads is non-negative: those of the registers it emits
outside clusters, and those of the registers inside them. -/
def OffsetsNonneg (regs : List Reg) : Prop :=
  ∀ it ∈ flatten regs, (∀ g, it.absOffset = some g → 0 ≤ g) ∧
    ∀ m gs, it = .cluster m → m.genregs = some gs → ∀ it' ∈ flatten gs, ∀ g,
      it'.absOffset = some g → 0 ≤ g

/-- A register compiled from `item` inside a frame at `base`: it is written at its absolute
offset less `base`, which is not negative. -/
def RegisterPlaced (base : Int) (item : Item) (node : Element) : Prop :=
  ∃ g, item.absOffset = some g ∧ node.findText "addressOffset" = some (hex (g - base)) ∧
    0 ≤ g - base

/-- Where the spec puts each item of a register list: a cluster at the least absolute offset
of the registers in it, which sit relative to it; any other register relative to 0. -/
def Placed : Item → Element → Prop
  | .cluster m, node => ∃ gs c, m.genregs = some gs ∧ 0 ≤ c ∧
      node.findText "addressOffset" = some (hex c) ∧
      (∃ it ∈ flatten gs, it.absOffset = some c) ∧
      (∀ it ∈ flatten gs, ∀ g, it.absOffset = some g → c ≤ g) ∧
      List.Forall₂ (RegisterPlaced c) (flatten gs) node.members
  | item, node => RegisterPlaced 0 item node

/-- A member entry compiles to one register item, whose absolute offset is what
`read_genoffset` reads from the entry. -/
theorem Reg.IsMember.item {e : Reg} (h : e.IsMember) : ∃ it, flattenEntry e = [it] ∧
    (∀ g, readGenoffset e = .ok g ↔ it.absOffset = some g) ∧ ∀ m, it ≠ .cluster m := by
  rcases h with h | ⟨w, h, hw⟩
  · refine ⟨.register e, by simp [flattenEntry_eq, h], fun g => ?_, by simp⟩
    have hwin := Reg.window_of_entry_register h
    unfold readGenoffset
    cases ho : e.genoffset <;> simp [ho, hwin, Item.absOffset]
  · refine ⟨.window w, by simp [flattenEntry_eq, h], fun g => ?_, by simp⟩
    have hwin := Reg.window_of_entry h
    unfold readGenoffset
    cases ho : e.genoffset with
    | none => simp [hwin, Item.absOffset, getitem_eq_ok]
    | some g' => simp [Item.absOffset, hw g' ho, pure_eq_ok]

/-- The offsets `generate_cluster` takes the minimum of are the absolute offsets of the
registers it emits. -/
theorem flatten_members {gs : List Reg} {offsets : List Int} (hm : ∀ e ∈ gs, e.IsMember)
    (ho : List.Forall₂ (fun r o => readGenoffset r = .ok o) gs offsets) :
    List.Forall₂ (fun it o => it.absOffset = some o) (flatten gs) offsets ∧
      ∀ it ∈ flatten gs, ∀ m, it ≠ .cluster m := by
  induction ho with
  | nil => exact ⟨.nil, by simp⟩
  | @cons e o gs offsets heo _ ih =>
    obtain ⟨it, hit, hread, hnc⟩ := (hm e (List.mem_cons_self _ _)).item
    obtain ⟨ih₁, ih₂⟩ := ih fun e' he' => hm e' (List.mem_cons_of_mem _ he')
    rw [flatten_cons, hit]
    refine ⟨.cons ((hread o).1 heo) ih₁, ?_⟩
    simp only [List.singleton_append, List.mem_cons]
    rintro it' (rfl | hit') m
    exacts [hnc m, ih₂ it' hit' m]

theorem mem_of_forall₂_some {α : Type} {f : α → Option Int} {l : List α} {os : List Int}
    (h : List.Forall₂ (fun a o => f a = some o) l os) (g : Int) :
    (∃ a ∈ l, f a = some g) ↔ g ∈ os := by
  induction h with
  | nil => simp
  | cons hab _ ih => simp only [List.mem_cons, or_and_right, exists_or, exists_eq_left', hab, ih,
      Option.some_inj, eq_comm]

/-- A compiled register or window sits at its absolute offset less the base it was built at. -/
theorem Item.generate_addressOffset {it : Item} {base : Int} {node : Element}
    (hc : ∀ m, it ≠ .cluster m) (h : it.generate base = .ok node) :
    ∃ g, it.absOffset = some g ∧ node.findText "addressOffset" = some (hex (g - base)) := by
  cases it with
  | register reg => exact (generateRegister_node h).2.2.2.1
  | window template => exact (generateDimRegister_node h).2.2.2.2.1
  | cluster m => exact absurd rfl (hc m)

/-- The step of the placement argument: an item of the flattened list, compiled at base 0, sits
where the spec puts it. -/
theorem placed_of_generate {regs : List Reg} (hm : MembersRegisterLike regs)
    (hn : OffsetsNonneg regs) {it : Item} (hit : it ∈ flatten regs) {node : Element}
    (hnode : it.generate 0 = .ok node) : Placed it node := by
  obtain ⟨hnn, hinner⟩ := hn it hit
  cases it with
  | cluster m =>
    obtain ⟨-, gs, offsets, c, name, desc, registers, hgs, ho, hc, -, -, hr, rfl⟩ :=
      generateCluster_eq_ok hnode
    obtain ⟨hoff, hnc⟩ := flatten_members (hm m hit gs hgs) ho
    obtain ⟨hcmem, hcmin⟩ := pyMin_eq_ok.1 hc
    have hmin : ∀ it ∈ flatten gs, ∀ g, it.absOffset = some g → c ≤ g :=
      fun it hit g hg => hcmin g ((mem_of_forall₂_some hoff g).1 ⟨it, hit, hg⟩)
    obtain ⟨it₀, hit₀, hc₀⟩ := (mem_of_forall₂_some hoff c).2 hcmem
    refine ⟨gs, c, hgs, hinner m gs rfl hgs it₀ hit₀ c hc₀, clusterNode_addressOffset ..,
      ⟨it₀, hit₀, hc₀⟩, hmin, ?_⟩
    rw [clusterNode_members (generateAllRegisters_tags hr)]
    refine forall₂_imp_mem (generateAllRegisters_eq_ok.1 hr) fun it hit node hnode => ?_
    obtain ⟨g, hg, hao⟩ := Item.generate_addressOffset (hnc it hit) hnode
    exact ⟨g, hg, hao, Int.sub_nonneg_of_le (hmin it hit g hg)⟩
  | register _ | window _ =>
    obtain ⟨g, hg, hao⟩ := Item.generate_addressOffset (by simp) hnode
    exact ⟨g, hg, hao, by simpa using hnn g hg⟩

/-- On register lists whose multiregs hold registers and windows only, with non-negative
offsets, `generate_all_registers(regs, 0)` places every item as the spec says: a cluster at the
least absolute offset of the registers emitted in it, every register at its absolute offset
less its cluster's, never below it. -/
theorem generateAllRegisters_placed {regs : List Reg} {nodes : List Element}
    (hm : MembersRegisterLike regs) (hn : OffsetsNonneg regs)
    (h : generateAllRegisters regs 0 = .ok nodes) : List.Forall₂ Placed (flatten regs) nodes :=
  forall₂_imp_mem (generateAllRegisters_eq_ok.1 h) fun _ hit _ => placed_of_generate hm hn hit

/-- The multireg of the spec's example, its members at `0x10`, `0x14` and `0x18`. -/
def specCluster : Reg :=
  let reg (name : String) (genoffset : Int) : Reg :=
    { Reg.empty with name := some name, desc := some name, genoffset := some genoffset }
  { Reg.empty with
    name := some "M", desc := some "m", genregs := some [reg "M0" 0x10, reg "M1" 0x14, reg "M2" 0x18] }

/-- The register list of the spec's example. -/
def specMultireg : List Reg := [{ Reg.empty with multireg := some specCluster }]

theorem flatten_specMultireg : flatten specMultireg = [.cluster specCluster] := rfl

theorem specMultireg_membersRegisterLike : MembersRegisterLike specMultireg := by
  rintro m hm gs hgs e he
  obtain rfl : m = specCluster := by simpa [flatten_specMultireg] using hm
  obtain rfl := (Option.some.inj hgs).symm
  rcases he with _ | ⟨_, _ | ⟨_, _ | ⟨_, ⟨⟩⟩⟩⟩ <;> exact .inl rfl

theorem specMultireg_offsetsNonneg : OffsetsNonneg specMultireg := by
  intro it hit
  obtain rfl : it = .cluster specCluster := by simpa [flatten_specMultireg] using hit
  refine ⟨by simp [Item.absOffset], fun m gs hm hgs it' hit' g hg => ?_⟩
  obtain rfl := (Item.cluster.inj hm).symm
  obtain rfl := (Option.some.inj hgs).symm
  rcases hit' with _ | ⟨_, _ | ⟨_, _ | ⟨_, ⟨⟩⟩⟩⟩ <;> cases hg <;> decide

theorem generateAllRegisters_placed_multireg :
    ∃ nodes, (MembersRegisterLike specMultireg ∧ OffsetsNonneg specMultireg ∧
      generateAllRegisters specMultireg 0 = .ok nodes) ∧
      List.Forall₂ Placed (flatten specMultireg) nodes := by
  obtain ⟨nodes, h⟩ : ∃ nodes, generateAllRegisters specMultireg 0 = .ok nodes := ⟨_, rfl⟩
  exact ⟨nodes, ⟨specMultireg_membersRegisterLike, specMultireg_offsetsNonneg, h⟩,
    generateAllRegisters_placed specMultireg_membersRegisterLike specMultireg_offsetsNonneg h⟩

/-- A reserved entry in a multireg's `genregs` still takes part in the minimum: the cluster sits
at the reserved entry's `0x0` while the only register emitted in it is at `0x4`. -/
theorem generateAllRegisters_reservedInGenregs :
    let gap : Reg := { Reg.empty with reserved := true, genoffset := some 0 }
    let reg : Reg := { Reg.empty with name := some "R", desc := some "r", genoffset := some 4 }
    let multi : Reg := { Reg.empty with name := some "M", desc := some "m", genregs := some [gap, reg] }
    ∃ cluster register, generateAllRegisters [{ Reg.empty with multireg := some multi }] 0 =
        .ok [cluster] ∧ cluster.members = [register] ∧
      cluster.findText "addressOffset" = some "0x0" ∧ register.findText "addressOffset" = some "0x4" :=
  ⟨_, _, rfl, rfl, rfl, rfl⟩

/-- The offset an SVD reader gets from a node's `addressOffset` text. -/
def Element.offsetRead (node : Element) : Option Int := (node.findText "addressOffset").bind parseHex

/-- What a reader recovers of an item's absolute offset: a register's own offset read back, or
for a cluster, the cluster's offset read back plus each member's. -/
def OffsetRecovered : Item → Element → Prop
  | .cluster m, node => ∃ gs c, m.genregs = some gs ∧ node.offsetRead = some c ∧
      List.Forall₂ (fun it n => ∃ r, n.offsetRead = some r ∧ it.absOffset = some (c + r))
        (flatten gs) node.members
  | item, node => node.offsetRead = item.absOffset

theorem offsetRead_of_findText {node : Element} {n : Int}
    (h : node.findText "addressOffset" = some (hex n)) : node.offsetRead = some n := by
  rw [Element.offsetRead, h, Option.some_bind, parseHex_of_hex]

theorem offsetRecovered_of_placed {it : Item} {node : Element} (h : Placed it node) :
    OffsetRecovered it node := by
  cases it with
  | cluster m =>
    obtain ⟨gs, c, hgs, -, hc, -, -, hmembers⟩ := h
    refine ⟨gs, c, hgs, offsetRead_of_findText hc, hmembers.imp fun it n ⟨g, hg, hao, _⟩ => ?_⟩
    exact ⟨g - c, offsetRead_of_findText hao, by rw [hg]; exact congrArg some (by omega)⟩
  | register _ | window _ =>
    obtain ⟨g, hg, hao, _⟩ := h
    exact (offsetRead_of_findText hao).trans (by rw [hg, Int.sub_zero])

/-- Reading the `addressOffset` texts back, every register outside a cluster is at its absolute
offset, and every register inside one at the cluster's offset plus its own. -/
theorem generateAllRegisters_offsetRecovered {regs : List Reg} {nodes : List Element}
    (hm : MembersRegisterLike regs) (hn : OffsetsNonneg regs)
    (h : generateAllRegisters regs 0 = .ok nodes) :
    List.Forall₂ OffsetRecovered (flatten regs) nodes :=
  forall₂_imp_mem (generateAllRegisters_eq_ok.1 h) fun _ hit _ hnode =>
    offsetRecovered_of_placed (placed_of_generate hm hn hit hnode)

theorem generateAllRegisters_offsetRecovered_multireg :
    ∃ nodes, (MembersRegisterLike specMultireg ∧ OffsetsNonneg specMultireg ∧
      generateAllRegisters specMultireg 0 = .ok nodes) ∧
      List.Forall₂ OffsetRecovered (flatten specMultireg) nodes := by
  obtain ⟨nodes, h⟩ : ∃ nodes, generateAllRegisters specMultireg 0 = .ok nodes := ⟨_, rfl⟩
  exact ⟨nodes, ⟨specMultireg_membersRegisterLike, specMultireg_offsetsNonneg, h⟩,
    generateAllRegisters_offsetRecovered specMultireg_membersRegisterLike
      specMultireg_offsetsNonneg h⟩

end SvdGen
