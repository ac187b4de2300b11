import SvdGen.Lex

/-! The names the converter writes. Every element `generate_device` builds below `<device>` has
a name from the SVD vocabulary, an XML name without a namespace prefix, and no attributes; only
`<device>` carries attributes, among them the `xmlns:xs` declaration. -/
namespace SvdGen

open Element

/-- A tag `write_svd` writes and expat reports as it is: an XML name without a prefix. -/
def nameOk (tag : String) : Bool := validName tag.toList && decide (':' ∉ tag.toList)

/-- A node as the converter builds it below `<device>`: a comment, or an element with a name
that is `nameOk` and no attributes. -/
def Named (n : Element) : Prop := (∀ t, n.tag = .name t → nameOk t) ∧ n.attrib = []

theorem named_new {tag : String} (h : nameOk tag) : Named (new tag) :=
  ⟨fun _ ht => by cases ht; exact h, rfl⟩

theorem named_comment (text : String) : Named (comment text) := ⟨nofun, rfl⟩

theorem named_leaves {texts : List (String × Option String)} (h : (texts.map Prod.fst).all nameOk) :
    ∀ t ∈ texts, ∀ v, t.2 = some v → Named (leaf t.1 v) := fun t ht _ _ =>
  named_new (List.all_eq_true.1 h t.1 (List.mem_map_of_mem _ ht))

/-- `svd_node` on a named childless element, with named keys, builds a named tree. -/
theorem every_named_svdNode {e : Element} {texts : List (String × Option String)} (he : Named e)
    (hc : e.children = []) (h : (texts.map Prod.fst).all nameOk) : Every Named (svdNode e texts) :=
  every_svdNode he (by simp [hc]) (named_leaves h)

theorem every_named_extendNode {e : Element} {texts : List (String × Option String)}
    {es : List Element} (he : Named e) (hc : e.children = []) (h : (texts.map Prod.fst).all nameOk)
    (hes : ∀ c ∈ es, Every Named c) : Every Named (extendNode (svdNode e texts) es) :=
  every_extendNode he (every_iff.1 (every_named_svdNode he hc h)).2 hes

theorem every_named_with_text {c : Element} (h : Every Named c) (text : Option String) :
    Every Named { c with text := text } :=
  every_iff.2 ⟨(every_iff.1 h).1, (every_iff.1 h).2⟩

theorem generateField_named {bits : Field} {node : Element} (h : generateField bits = .ok node) :
    Every Named node := by
  obtain ⟨modes, name, desc, bitinfo, -, -, -, -, rfl⟩ := generateField_eq_ok h
  exact every_named_svdNode (named_new (by decide)) rfl (by simp [accessTexts]; decide)

theorem generateAllFields_named {flatten : Bool} {fields : Option (List Field)}
    {nodes : List Element} (h : generateAllFields flatten fields = .ok nodes) :
    ∀ n ∈ nodes, Every Named n := by
  rcases generateAllFields_eq_ok h with ⟨-, rfl⟩ | ⟨-, fs, fieldNodes, -, hf, rfl⟩
  · simp
  · simp only [List.mem_singleton, forall_eq]
    refine every_extendNode (named_new (by decide)) (by simp) fun c hc => ?_
    obtain ⟨f, -, hfc⟩ := exists_of_forall₂_mem hf hc
    exact generateField_named hfc

theorem generateRegister_named {reg : Reg} {base : Int} {node : Element}
    (h : generateRegister reg base = .ok node) : Every Named node := by
  obtain ⟨size, modes, name, desc, off, fns, -, -, -, -, -, hf, rfl⟩ := generateRegister_eq_ok h
  exact every_named_extendNode (named_new (by decide)) rfl
    (by simp [registerTexts, accessTexts]; decide) (generateAllFields_named hf)

theorem nameWithPlaceholder_named {cs cs' : List Element} (h : nameWithPlaceholder cs = .ok cs')
    (hcs : ∀ c ∈ cs, Every Named c) : ∀ c ∈ cs', Every Named c := by
  obtain ⟨pre, c, text, post, rfl, -, -, -, rfl⟩ := nameWithPlaceholder_eq_ok h
  simp only [List.mem_append, List.mem_cons] at hcs ⊢
  rintro x (hx | rfl | hx)
  · exact hcs x (.inl hx)
  · exact every_named_with_text (hcs c (.inr (.inl rfl))) _
  · exact hcs x (.inr (.inr hx))

theorem generateDimRegister_named {window : Reg} {base : Int} {node : Element}
    (h : generateDimRegister window base = .ok node) : Every Named node := by
  obtain ⟨register, items, bits, inc, children, hr, -, -, -, hn, rfl⟩ := generateDimRegister_eq_ok h
  have hreg := every_iff.1 (generateRegister_named hr)
  refine every_iff.2 ⟨hreg.1, nameWithPlaceholder_named hn fun c hc => ?_⟩
  simp only [svdNode_children, List.mem_append] at hc
  rcases hc with hc | hc
  · exact hreg.2 c hc
  · obtain ⟨t, ht, hc⟩ := List.mem_filterMap.1 hc
    obtain ⟨v, hv, rfl⟩ := Option.map_eq_some'.1 hc
    exact every_leaf.2 (named_leaves (by simp only [List.map_cons, List.map_nil]; decide) t ht v hv)

theorem generateAllRegisters_named {regs : List Reg} {base : Int} {nodes : List Element}
    (h : generateAllRegisters regs base = .ok nodes) : ∀ n ∈ nodes, Every Named n :=
  generateAllRegisters_forall (Q := fun _ n => Every Named n)
    (fun _ _ _ h => generateRegister_named h) (fun _ _ _ h => generateDimRegister_named h)
    (fun _ _ _ _ _ _ _ _ _ ih => every_named_extendNode (named_new (by decide)) rfl
      (by simp only [List.map_cons, List.map_nil]; decide) ih)
    regs base nodes h

theorem generateAllInterrupts_named {irqs : Option (List Irq)} {nodes : List Element}
    (h : generateAllInterrupts irqs = .ok nodes) : ∀ n ∈ nodes, Every Named n := by
  intro n hn
  obtain ⟨_, _, name, -, rfl⟩ := exists_of_forall₂_mem (generateAllInterrupts_eq_ok.1 h) hn
  exact every_named_svdNode (named_new (by decide)) rfl (by simp only [List.map_cons, List.map_nil]; decide)

theorem generatePeripheral_named {module : Module} {ip : Ip} {node : Element}
    (h : generatePeripheral module ip = .ok node) : Every Named node := by
  obtain ⟨name, baseAddr, interrupts, regs, registerNodes, -, -, hi, -, hr, rfl⟩ :=
    generatePeripheral_eq_ok h
  refine every_named_extendNode (named_new (by decide)) rfl
    (by simp only [List.map_cons, List.map_nil]; decide) fun c hc => ?_
  simp only [List.mem_append, List.mem_cons, List.mem_singleton, List.not_mem_nil, or_false] at hc
  rcases hc with hc | rfl | rfl
  · exact generateAllInterrupts_named hi c hc
  · exact every_named_extendNode (named_new (by decide)) rfl (by decide) (generateAllRegisters_named hr)
  · exact every_comment.2 (named_comment _)

/-- `generate_device` builds `<device>` with its attributes, and below it only named nodes. -/
theorem generateDevice_named {top : Top} {ips : String → Option Ip} {version description : String}
    {device : Element} (h : generateDevice top ips version description = .ok device) :
    device.tag = .name "device" ∧ device.attrib = deviceAttrib ∧
      ∀ c ∈ device.children, Every Named c := by
  obtain ⟨name, datawidth, modules, peripherals, -, -, -, hp, rfl⟩ := generateDevice_eq_ok h
  obtain ⟨ps, hps, rfl⟩ := generatePeripherals_eq_ok hp
  refine ⟨rfl, rfl, fun c hc => ?_⟩
  simp only [extendNode_children, svdNode_children, List.mem_append, List.mem_cons,
    List.mem_singleton, List.not_mem_nil, or_false] at hc
  rcases hc with (hc | hc) | rfl | rfl
  · simp at hc
  · obtain ⟨t, ht, hc⟩ := List.mem_filterMap.1 hc
    obtain ⟨v, hv, rfl⟩ := Option.map_eq_some'.1 hc
    exact every_leaf.2 (named_leaves (by simp only [List.map_cons, List.map_nil]; decide) t ht v hv)
  · exact every_named_svdNode (named_new (by decide)) rfl (by decide)
  · refine every_named_extendNode (named_new (by decide)) rfl (by decide) fun p hp => ?_
    obtain ⟨module, -, _, -, _, -, hgen⟩ := exists_of_forall₂_mem hps hp
    exact generatePeripheral_named hgen

end SvdGen
