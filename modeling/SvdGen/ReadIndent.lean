import SvdGen.ReadBack

/-! The reader sees through `indent_tree`. Indenting keeps every tag and every child in its
place, and changes only whitespace: a leaf's text is stripped, which the reader does anyway,
and a parent's text and every tail, which the reader never looks at. So a reader of the
indented tree reads what it read before (`readDevice_indentTree`), and the SVD that
`convert_top_to_svd` returns reads back as its HJSON input (`convertTopToSvd_read`). -/
namespace SvdGen

open Element

/-! ### Lists related pointwise -/

theorem bind_eq_of_rel {α β γ : Type} {R : α → β → Prop} {a : Option α} {b : Option β}
    {f : α → Option γ} {g : β → Option γ} (h : Option.Rel R a b) (hfg : ∀ x y, R x y → f x = g y) :
    a.bind f = b.bind g := by
  cases h with
  | none => rfl
  | some hxy => exact hfg _ _ hxy

theorem find?_rel {α β : Type} {R : α → β → Prop} {p : α → Bool} {q : β → Bool}
    (hpq : ∀ a b, R a b → p a = q b) {l : List α} {l' : List β} (h : List.Forall₂ R l l') :
    Option.Rel R (l.find? p) (l'.find? q) := by
  induction h with
  | nil => exact .none
  | @cons a b _ _ hab _ ih =>
    rw [List.find?_cons, List.find?_cons, hpq a b hab]
    cases q b
    · exact ih
    · exact .some hab

theorem mapM_eq_of_forall₂ {α β γ : Type} {R : α → β → Prop} {f : α → Option γ}
    {g : β → Option γ} (hfg : ∀ a b, R a b → f a = g b) {l : List α} {l' : List β}
    (h : List.Forall₂ R l l') : l.mapM f = l'.mapM g := by
  induction h with
  | nil => rfl
  | cons hab _ ih => rw [List.mapM_cons, List.mapM_cons, hfg _ _ hab, ih]

/-! ### What indenting keeps -/

section Reindent

variable (s : String)

@[simp] theorem reindent_tag (d : Nat) (t : String) (e : Element) : (reindent s d t e).tag = e.tag := by
  obtain ⟨⟩ := e
  rfl

theorem reindent_children (d : Nat) (t : String) (e : Element) :
    (reindent s d t e).children = reindentChildren s d e.children := by
  obtain ⟨⟩ := e
  rfl

theorem reindent_text (d : Nat) (t : String) (e : Element) : (reindent s d t e).text =
    if e.children.isEmpty then e.text.map strip else some (ind s (d + 1)) := by
  obtain ⟨⟩ := e
  rfl

/-- Each child of an indented node is the matching child, indented one level deeper. -/
theorem reindentChildren_forall₂ (d : Nat) : ∀ cs : List Element,
    List.Forall₂ (fun c c' => ∃ t, c' = reindent s (d + 1) t c) cs (reindentChildren s d cs)
  | [] => .nil
  | [_] => .cons ⟨_, rfl⟩ .nil
  | c :: c' :: cs => by
    rw [reindentChildren_cons_cons]
    exact .cons ⟨_, rfl⟩ (reindentChildren_forall₂ d (c' :: cs))

theorem find_reindent (d : Nat) (t : String) (e : Element) (key : String) :
    Option.Rel (fun c c' => ∃ t, c' = reindent s (d + 1) t c) (e.find key)
      ((reindent s d t e).find key) := by
  rw [find, find, reindent_children]
  exact find?_rel (fun _ _ ⟨_, h⟩ => by rw [h, reindent_tag]) (reindentChildren_forall₂ s d _)

theorem mapM_reindentChildren {β : Type} {f : Element → Option β}
    (hf : ∀ d t c, f (reindent s d t c) = f c) (d : Nat) (cs : List Element) :
    (reindentChildren s d cs).mapM f = cs.mapM f :=
  (mapM_eq_of_forall₂ (fun _ _ ⟨t, h⟩ => by rw [h, hf]) (reindentChildren_forall₂ s d cs)).symm

/-! ### The reader on an indented tree -/

@[simp] theorem leafText_reindent (d : Nat) (t : String) (e : Element) :
    (reindent s d t e).leafText = e.leafText := by
  simp only [leafText, reindent_children, reindent_text, reindentChildren_isEmpty]
  split
  · cases e.text <;> simp [strip_strip]
  · rfl

@[simp] theorem readText_reindent (d : Nat) (t : String) (e : Element) (key : String) :
    (reindent s d t e).readText key = e.readText key :=
  (bind_eq_of_rel (find_reindent s d t e key) fun _ _ ⟨_, h⟩ => by rw [h, leafText_reindent]).symm

@[simp] theorem readOptional_reindent {α : Type} (d : Nat) (t : String) (e : Element) (key : String)
    (parse : String → Option α) : readOptional (reindent s d t e) key parse = readOptional e key parse := by
  have hrel := find_reindent s d t e key
  unfold readOptional
  generalize e.find key = a at hrel ⊢
  generalize (reindent s d t e).find key = b at hrel ⊢
  cases hrel with
  | none => rfl
  | some h =>
    obtain ⟨t', rfl⟩ := h
    dsimp only
    rw [leafText_reindent]

@[simp] theorem readField_reindent (d : Nat) (t : String) (e : Element) :
    readField (reindent s d t e) = readField e := by
  simp only [readField, readModes, readOptional_reindent, reindent_tag, readText_reindent]

@[simp] theorem readFields_reindent (d : Nat) (t : String) (e : Element) :
    readFields (reindent s d t e) = readFields e := by
  have hrel := find_reindent s d t e "fields"
  unfold readFields
  generalize e.find "fields" = a at hrel ⊢
  generalize (reindent s d t e).find "fields" = b at hrel ⊢
  cases hrel with
  | none => rfl
  | some h =>
    obtain ⟨t', rfl⟩ := h
    dsimp only
    rw [reindent_children, mapM_reindentChildren s (readField_reindent s)]

@[simp] theorem readRegister_reindent (base : Int) (d : Nat) (t : String) (e : Element) :
    readRegister base (reindent s d t e) = readRegister base e := by
  simp only [readRegister, readValues, readModes, readOptional_reindent, readText_reindent,
    readFields_reindent]

theorem readMembers_cons_congr {base : Int} {c c' : Element} {cs cs' : List Element}
    (htag : c'.tag = c.tag) (hc : readMember base c' = readMember base c)
    (hcs : readMembers base cs' = readMembers base cs) :
    readMembers base (c' :: cs') = readMembers base (c :: cs) := by
  by_cases h : c.tag = .name "register" ∨ c.tag = .name "cluster"
  · rw [readMembers_cons_of_member (htag ▸ h), readMembers_cons_of_member h, hc, hcs]
  · rw [readMembers_cons_of_other (htag ▸ h), readMembers_cons_of_other h, hcs]

mutual
theorem readMember_reindent : ∀ (base : Int) (d : Nat) (t : String) (e : Element),
    readMember base (reindent s d t e) = readMember base e
  | base, d, t, ⟨tag, attrib, text, tail, children⟩ => by
    have ih : ∀ b, readMembers b (reindentChildren s d children) = readMembers b children :=
      fun b => readMembers_reindent b d children
    have htag := reindent_tag s d t ⟨tag, attrib, text, tail, children⟩
    by_cases hr : tag = .name "register"
    · rw [readMember_of_register (e := ⟨tag, attrib, text, tail, children⟩) hr,
        readMember_of_register (htag.trans hr), readRegister_reindent]
    by_cases hc : tag = .name "cluster"
    · rw [readMember_of_cluster (e := ⟨tag, attrib, text, tail, children⟩) hc,
        readMember_of_cluster (htag.trans hc)]
      simp only [readText_reindent, reindent_children, ih]
    · rw [readMember_of_other (e := ⟨tag, attrib, text, tail, children⟩) (by simp [hr, hc]),
        readMember_of_other (e := reindent s d t ⟨tag, attrib, text, tail, children⟩)
          (by rw [htag]; simp [hr, hc])]

theorem readMembers_reindent : ∀ (base : Int) (d : Nat) (cs : List Element),
    readMembers base (reindentChildren s d cs) = readMembers base cs
  | _, _, [] => rfl
  | base, d, [c] =>
    readMembers_cons_congr (reindent_tag s _ _ c) (readMember_reindent base (d + 1) (ind s d) c) rfl
  | base, d, c :: c' :: cs => by
    rw [reindentChildren_cons_cons]
    exact readMembers_cons_congr (reindent_tag s _ _ c)
      (readMember_reindent base (d + 1) (ind s (d + 1)) c) (readMembers_reindent base d (c' :: cs))
end

@[simp] theorem readInterrupt_reindent (d : Nat) (t : String) (e : Element) :
    readInterrupt (reindent s d t e) = readInterrupt e := by
  simp only [readInterrupt, readText_reindent]

theorem findAll_reindent (d : Nat) (t : String) (e : Element) (key : String) :
    List.Forall₂ (fun c c' => ∃ t, c' = reindent s (d + 1) t c) (e.findAll key)
      ((reindent s d t e).findAll key) := by
  rw [findAll, findAll, reindent_children]
  exact List.rel_filter (fun _ _ ⟨_, h⟩ => by subst h; simp only [reindent_tag])
    (reindentChildren_forall₂ s d _)

@[simp] theorem readPeripheral_reindent (d : Nat) (t : String) (e : Element) :
    readPeripheral (reindent s d t e) = readPeripheral e := by
  have hirqs : ((reindent s d t e).findAll "interrupt").mapM readInterrupt =
      (e.findAll "interrupt").mapM readInterrupt :=
    (mapM_eq_of_forall₂ (fun _ _ ⟨t', h⟩ => by rw [h, readInterrupt_reindent])
      (findAll_reindent s d t e "interrupt")).symm
  have hregs : ((reindent s d t e).find "registers").bind (fun r => readMembers 0 r.children) =
      (e.find "registers").bind (fun r => readMembers 0 r.children) :=
    (bind_eq_of_rel (find_reindent s d t e "registers") fun _ _ ⟨t', h⟩ => by
      rw [h, reindent_children, readMembers_reindent]).symm
  simp only [readPeripheral, reindent_tag, readText_reindent, hirqs, hregs]

@[simp] theorem readDevice_reindent (d : Nat) (t : String) (e : Element) :
    readDevice (reindent s d t e) = readDevice e := by
  have hps : ((reindent s d t e).find "peripherals").bind (fun p => p.children.mapM readPeripheral) =
      (e.find "peripherals").bind (fun p => p.children.mapM readPeripheral) :=
    (bind_eq_of_rel (find_reindent s d t e "peripherals") fun _ _ ⟨t', h⟩ => by
      rw [h, reindent_children, mapM_reindentChildren s (readPeripheral_reindent s)]).symm
  simp only [readDevice, readDeviceTexts, reindent_tag, readText_reindent, hps]

end Reindent

/-- Indenting is invisible to the reader: for every tree and every indentation, the SVD
`indent_tree` leaves reads as the tree did. -/
theorem readDevice_indentTree (e : Element) (s : String) :
    readDevice (indentTree e s) = readDevice e := by
  have h := indentTree_eq_reindent s e 0
  rw [ind_zero] at h
  rw [h, readDevice_reindent]

/-- The SVD `convert_top_to_svd` returns, indented and checked, reads back as its input: the
top's name and data width, the version and description given, and for each module of the top
its peripheral, with the interrupts and the register map of the IP block of its type. -/
theorem convertTopToSvd_read {top : Top} {ips : String → Option Ip} {version description : String}
    {verify : Bool} {validate : Element → Except Error Unit} {root : Element}
    (h : convertTopToSvd top ips version description verify validate = .ok root) :
    ∃ info, readDevice root = some info ∧ DeviceMeans top ips version description info := by
  obtain ⟨device, hd, rfl⟩ := convertTopToSvd_eq_ok h
  have hr := indentTree_eq_reindent "\n" device 0
  rw [ind_zero] at hr
  rw [hr, readDevice_reindent]
  exact generateDevice_read hd

theorem convertTopToSvd_read_uart :
    let ctrl : Reg := { Reg.empty with
      name := some "CTRL", desc := some " c\n", genoffset := some 0, swaccess := some "rw",
      fields := some [⟨some "en", some "e", some (1, 1, 0), some "rw1c"⟩] }
    let buffer : Reg := { Reg.empty with
      window := some { Reg.empty with
        name := some "BUF", desc := some "b", genoffset := some 8, items := some 4,
        genvalidbits := some 32 } }
    let status0 : Reg := { Reg.empty with name := some "STATUS0", desc := some "s0", genoffset := some 4 }
    let status : Reg := { Reg.empty with
      multireg := some { Reg.empty with
        name := some "STATUS", desc := some "s", genregs := some [status0, buffer] } }
    let top : Top := ⟨some "top", some "32", some [⟨some "uart0", some "uart", some "0x40000000"⟩]⟩
    let ips (type : String) : Option Ip :=
      if type = "uart" then some ⟨some [⟨some "tx"⟩], some [ctrl, status]⟩ else none
    ∃ root, convertTopToSvd top ips "1.0" "test" true (fun _ => pure ()) = .ok root ∧
      ∃ info, readDevice root = some info ∧ DeviceMeans top ips "1.0" "test" info := by
  intro ctrl buffer status0 status top ips
  obtain ⟨root, h⟩ : ∃ root,
    convertTopToSvd top ips "1.0" "test" true (fun _ => pure ()) = .ok root := ⟨_, rfl⟩
  exact ⟨root, h, convertTopToSvd_read h⟩

end SvdGen
