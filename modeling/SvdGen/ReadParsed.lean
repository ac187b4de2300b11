import SvdGen.Parse

/-! The reader sees through ElementTree's parse of the written file. Parsing keeps the tag of
every element and its element children in order; it drops comments, and leaves a childless
element the text it was written with, absent when empty, which `findtext` reads as `""`. So
whatever the reader reads off a tree, it reads the same off the tree's parse
(`readDevice_parsedNode`); the converse fails only at a node whose children are all comments.
Hence the file `write_svd` writes for what `convert_top_to_svd` returns, read back by
ElementTree, reads as the HJSON input (`convertTopToSvd_parsed_read`). -/
namespace SvdGen

open Element

/-! ### Reads that succeed, step by step -/

/-- One step of a read: when what it binds succeeds alike on the other tree, and so does the
rest of the read for every value bound, the read does. -/
theorem bind_eq_some_of {α β : Type} {x y : Option α} {f g : α → Option β} {v : β}
    (hxy : ∀ a, x = some a → y = some a) (hfg : ∀ a, f a = some v → g a = some v)
    (h : (x >>= f) = some v) : (y >>= g) = some v := by
  obtain ⟨a, ha, hf⟩ := Option.bind_eq_some.1 h
  exact Option.bind_eq_some.2 ⟨a, hxy a ha, hfg a hf⟩

theorem bind_eq_some_of_rel {α β γ : Type} {R : α → β → Prop} {a : Option α} {b : Option β}
    {f : α → Option γ} {g : β → Option γ} {v : γ} (h : Option.Rel R a b)
    (hfg : ∀ x y, R x y → f x = some v → g y = some v) (hv : a.bind f = some v) :
    b.bind g = some v := by
  cases h with
  | none => exact absurd hv (by simp)
  | some hxy => exact hfg _ _ hxy hv

theorem mapM_eq_some_of_forall₂ {α β γ : Type} {R : α → β → Prop} {f : α → Option γ}
    {g : β → Option γ} (hfg : ∀ a b, R a b → ∀ v, f a = some v → g b = some v) {l : List α}
    {l' : List β} (h : List.Forall₂ R l l') :
    ∀ {vs : List γ}, l.mapM f = some vs → l'.mapM g = some vs := by
  induction h with
  | nil => exact id
  | cons hab _ ih =>
    intro vs hvs
    rw [List.mapM_cons] at hvs ⊢
    exact bind_eq_some_of (hfg _ _ hab) (fun _ => bind_eq_some_of (fun _ => ih) fun _ => id) hvs

/-- Children that all read successfully, by a reading that fails at a comment, hold none. -/
theorem filter_of_mapM_eq_some {γ : Type} {f : Element → Option γ}
    (hf : ∀ c, c.tag = .comment → f c = none) :
    ∀ {cs : List Element} {vs : List γ}, cs.mapM f = some vs → cs.filter (·.tag ≠ .comment) = cs
  | [], _, _ => rfl
  | c :: cs, vs, h => by
    rw [List.mapM_cons] at h
    obtain ⟨v, hv, h⟩ := Option.bind_eq_some.1 h
    obtain ⟨vs', hvs', -⟩ := Option.bind_eq_some.1 h
    have hc : c.tag ≠ .comment := fun hc => by simp [hf c hc] at hv
    rw [List.filter_cons_of_pos (by simpa using hc), filter_of_mapM_eq_some hf hvs']

/-! ### What parsing keeps -/

@[simp] theorem parsedNode_tag (t : Option String) (e : Element) : (parsedNode t e).tag = e.tag := by
  obtain ⟨⟩ := e
  rfl

theorem parsedNode_children (t : Option String) (e : Element) :
    (parsedNode t e).children = (parsedChildren e.children).2 := by
  obtain ⟨⟩ := e
  rfl

/-- The element children of a list, parsed, each with the data after it as its tail. -/
theorem parsedChildren_forall₂ : ∀ cs : List Element,
    List.Forall₂ (fun c c' => ∃ t, c' = parsedNode t c) (cs.filter (·.tag ≠ .comment))
      (parsedChildren cs).2
  | [] => .nil
  | c :: cs => by
    by_cases hc : c.tag = .comment
    · simpa [parsedChildren, hc] using parsedChildren_forall₂ cs
    · simpa [parsedChildren, hc] using List.Forall₂.cons ⟨_, rfl⟩ (parsedChildren_forall₂ cs)

theorem find_parsedNode (t : Option String) (e : Element) (key : String) :
    Option.Rel (fun c c' => ∃ t, c' = parsedNode t c) (e.find key) ((parsedNode t e).find key) := by
  have hfind : (e.children.filter (·.tag ≠ .comment)).find? (·.tag = .name key) = e.find key := by
    rw [List.find?_filter, find]
    congr 1
    funext c
    by_cases h : c.tag = .name key <;> simp [h]
  rw [← hfind, find, parsedNode_children]
  exact find?_rel (fun _ _ ⟨_, h⟩ => by rw [h, parsedNode_tag]) (parsedChildren_forall₂ _)

theorem findAll_parsedNode (t : Option String) (e : Element) (key : String) :
    List.Forall₂ (fun c c' => ∃ t, c' = parsedNode t c) (e.findAll key)
      ((parsedNode t e).findAll key) := by
  have hfilter : (e.children.filter (·.tag ≠ .comment)).filter (·.tag = .name key) = e.findAll key := by
    rw [List.filter_filter, findAll]
    congr 1
    funext c
    by_cases h : c.tag = .name key <;> simp [h]
  rw [← hfilter, findAll, parsedNode_children]
  exact List.rel_filter (fun _ _ ⟨_, h⟩ => by subst h; simp only [parsedNode_tag])
    (parsedChildren_forall₂ _)

theorem find_parsedNode_of_eq_some (t : Option String) {e c : Element} {key : String}
    (h : e.find key = some c) : ∃ t', (parsedNode t e).find key = some (parsedNode t' c) := by
  have hrel := find_parsedNode t e key
  rw [h] at hrel
  generalize (parsedNode t e).find key = b at hrel ⊢
  cases hrel with
  | some hxy =>
    obtain ⟨t', rfl⟩ := hxy
    exact ⟨t', rfl⟩

theorem find_parsedNode_of_eq_none (t : Option String) {e : Element} {key : String}
    (h : e.find key = none) : (parsedNode t e).find key = none := by
  have hrel := find_parsedNode t e key
  rw [h] at hrel
  generalize (parsedNode t e).find key = b at hrel ⊢
  cases hrel
  rfl

/-- The children of a node with no comment child, parsed. -/
theorem parsedNode_children_forall₂ {e : Element}
    (h : e.children.filter (·.tag ≠ .comment) = e.children) (t : Option String) :
    List.Forall₂ (fun c c' => ∃ t, c' = parsedNode t c) e.children (parsedNode t e).children := by
  have hcs := parsedChildren_forall₂ e.children
  rw [h] at hcs
  rwa [parsedNode_children]

theorem getD_joinData_dataOf (text : Option String) :
    (joinData (dataOf text)).getD "" = text.getD "" := by
  cases text with
  | none => rfl
  | some s => by_cases h : s = "" <;> simp [dataOf, joinData, String.join, h]

/-- A childless node keeps its text, up to an empty one becoming absent. -/
theorem leafText_parsedNode {c : Element} {v : String} (t : Option String) (h : c.leafText = some v) :
    (parsedNode t c).leafText = some v := by
  obtain ⟨tag, attrib, text, tl, children⟩ := c
  cases children with
  | nil => simpa [leafText, parsedNode, parsedChildren, getD_joinData_dataOf] using h
  | cons => simp [leafText] at h

/-! ### The reader on a parsed tree -/

section Parsed

variable (t : Option String)

theorem readText_parsedNode {e : Element} {key v : String} (h : e.readText key = some v) :
    (parsedNode t e).readText key = some v :=
  bind_eq_some_of_rel (find_parsedNode t e key) (fun _ _ ⟨_, h⟩ hv => h ▸ leafText_parsedNode _ hv) h

theorem readOptional_parsedNode {α : Type} {e : Element} {key : String} {parse : String → Option α}
    {v : Option α} (h : readOptional e key parse = some v) :
    readOptional (parsedNode t e) key parse = some v := by
  have hrel := find_parsedNode t e key
  unfold readOptional at h ⊢
  generalize e.find key = a at hrel h
  generalize (parsedNode t e).find key = b at hrel ⊢
  cases hrel with
  | none => exact h
  | some hxy =>
    obtain ⟨t', rfl⟩ := hxy
    rename_i c
    dsimp only at h ⊢
    cases hl : c.leafText with
    | none => simp [hl] at h
    | some s => rwa [leafText_parsedNode t' hl, ← hl]

theorem readText_bind_parsedNode {α : Type} {e : Element} {key : String} {parse : String → Option α}
    {v : α} (h : (e.readText key).bind parse = some v) :
    ((parsedNode t e).readText key).bind parse = some v :=
  bind_eq_some_of (fun _ => readText_parsedNode t) (fun _ => id) h

theorem readModes_parsedNode {e : Element} {modes : AccessModes} (h : readModes e = some modes) :
    readModes (parsedNode t e) = some modes :=
  bind_eq_some_of (fun _ => readOptional_parsedNode t) (fun _ =>
    bind_eq_some_of (fun _ => readOptional_parsedNode t) fun _ =>
    bind_eq_some_of (fun _ => readOptional_parsedNode t) fun _ => id) h

theorem readField_parsedNode {e : Element} {info : FieldInfo} (h : readField e = some info) :
    readField (parsedNode t e) = some info := by
  unfold readField at h ⊢
  rw [parsedNode_tag]
  by_cases htag : e.tag = .name "field"
  · rw [if_pos htag] at h ⊢
    exact bind_eq_some_of (fun _ => readText_parsedNode t) (fun _ =>
      bind_eq_some_of (fun _ => readText_parsedNode t) fun _ =>
      bind_eq_some_of (fun _ => readText_bind_parsedNode t) fun _ =>
      bind_eq_some_of (fun _ => readModes_parsedNode t) fun _ => id) h
  · rw [if_neg htag] at h
    exact absurd h (by simp)

/-- A reading of each child that fails at a comment reads the parsed children alike. -/
theorem mapM_children_parsedNode {γ : Type} {f : Element → Option γ}
    (hcomment : ∀ c, c.tag = .comment → f c = none)
    (hf : ∀ t c v, f c = some v → f (parsedNode t c) = some v) {e : Element} {vs : List γ}
    (h : e.children.mapM f = some vs) : (parsedNode t e).children.mapM f = some vs :=
  mapM_eq_some_of_forall₂ (fun _ _ ⟨_, h⟩ _ hv => h ▸ hf _ _ _ hv)
    (parsedNode_children_forall₂ (filter_of_mapM_eq_some hcomment h) t) h

theorem readFields_parsedNode {e : Element} {fields : Option (List FieldInfo)}
    (h : readFields e = some fields) : readFields (parsedNode t e) = some fields := by
  unfold readFields at h ⊢
  cases hf : e.find "fields" with
  | none =>
    rw [hf] at h
    rwa [find_parsedNode_of_eq_none t hf]
  | some c =>
    obtain ⟨t', hc⟩ := find_parsedNode_of_eq_some t hf
    rw [hf] at h
    obtain ⟨infos, hinfos, rfl⟩ := Option.map_eq_some'.1 h
    rw [hc]
    exact congrArg (Option.map some) (mapM_children_parsedNode t' (fun c hc => by simp [readField, hc])
      (fun _ _ _ => readField_parsedNode _) hinfos)

theorem readValues_parsedNode {e : Element} {values : Option Int × Option Int × Option Int ×
    Option Int × Option Int × Option Int} (h : readValues e = some values) :
    readValues (parsedNode t e) = some values :=
  bind_eq_some_of (fun _ => readOptional_parsedNode t) (fun _ =>
    bind_eq_some_of (fun _ => readOptional_parsedNode t) fun _ =>
    bind_eq_some_of (fun _ => readOptional_parsedNode t) fun _ =>
    bind_eq_some_of (fun _ => readOptional_parsedNode t) fun _ =>
    bind_eq_some_of (fun _ => readOptional_parsedNode t) fun _ =>
    bind_eq_some_of (fun _ => readOptional_parsedNode t) fun _ => id) h

theorem readRegister_parsedNode {base : Int} {e : Element} {info : RegisterInfo}
    (h : readRegister base e = some info) : readRegister base (parsedNode t e) = some info :=
  bind_eq_some_of (fun _ => readText_parsedNode t) (fun _ =>
    bind_eq_some_of (fun _ => readText_parsedNode t) fun _ =>
    bind_eq_some_of (fun _ => readText_bind_parsedNode t) fun _ =>
    bind_eq_some_of (fun _ => readValues_parsedNode t) fun _ =>
    bind_eq_some_of (fun _ => readModes_parsedNode t) fun _ =>
    bind_eq_some_of (fun _ => readFields_parsedNode t) fun _ => id) h

end Parsed

mutual
theorem readMember_parsedNode : ∀ (base : Int) (t : Option String) (e : Element) {m : MemberInfo},
    readMember base e = some m → readMember base (parsedNode t e) = some m
  | base, t, ⟨tag, attrib, text, tl, children⟩, m, h => by
    have htag := parsedNode_tag t ⟨tag, attrib, text, tl, children⟩
    by_cases hr : tag = .name "register"
    · rw [readMember_of_register (e := ⟨tag, attrib, text, tl, children⟩) hr] at h
      obtain ⟨info, hinfo, rfl⟩ := Option.map_eq_some'.1 h
      rw [readMember_of_register (htag.trans hr), readRegister_parsedNode t hinfo]
      rfl
    by_cases hc : tag = .name "cluster"
    · rw [readMember_of_cluster (e := ⟨tag, attrib, text, tl, children⟩) hc] at h
      rw [readMember_of_cluster (htag.trans hc), parsedNode_children]
      exact bind_eq_some_of (fun _ => readText_parsedNode t) (fun _ =>
        bind_eq_some_of (fun _ => readText_parsedNode t) fun _ =>
        bind_eq_some_of (fun _ => readText_bind_parsedNode t) fun _ =>
        bind_eq_some_of (fun _ => readMembers_parsedChildren _ children) fun _ => id) h
    · rw [readMember_of_other (e := ⟨tag, attrib, text, tl, children⟩) (by simp [hr, hc])] at h
      exact absurd h (by simp)

theorem readMembers_parsedChildren : ∀ (base : Int) (cs : List Element) {ms : List MemberInfo},
    readMembers base cs = some ms → readMembers base (parsedChildren cs).2 = some ms
  | _, [], _, h => h
  | base, c :: cs, ms, h => by
    by_cases hc : c.tag = .comment
    · rw [readMembers_cons_of_other (by simp [hc])] at h
      simpa [parsedChildren, hc] using readMembers_parsedChildren base cs h
    rw [parsedChildren, if_neg hc]
    by_cases hm : c.tag = .name "register" ∨ c.tag = .name "cluster"
    · rw [readMembers_cons_of_member hm] at h
      rw [readMembers_cons_of_member (by simpa using hm)]
      exact bind_eq_some_of (fun _ => readMember_parsedNode base _ c) (fun _ =>
        bind_eq_some_of (fun _ => readMembers_parsedChildren base cs) fun _ => id) h
    · rw [readMembers_cons_of_other hm] at h
      rw [readMembers_cons_of_other (by simpa using hm)]
      exact readMembers_parsedChildren base cs h
end

section Parsed

variable (t : Option String)

theorem readInterrupt_parsedNode {e : Element} {irq : String × Int} (h : readInterrupt e = some irq) :
    readInterrupt (parsedNode t e) = some irq :=
  bind_eq_some_of (fun _ => readText_parsedNode t) (fun _ =>
    bind_eq_some_of (fun _ => readText_bind_parsedNode t) fun _ => id) h

theorem readPeripheral_parsedNode {e : Element} {info : PeripheralInfo}
    (h : readPeripheral e = some info) : readPeripheral (parsedNode t e) = some info := by
  unfold readPeripheral at h ⊢
  rw [parsedNode_tag]
  by_cases htag : e.tag = .name "peripheral"
  · rw [if_pos htag] at h ⊢
    exact bind_eq_some_of (fun _ => readText_parsedNode t) (fun _ =>
      bind_eq_some_of (fun _ => readText_parsedNode t) fun _ =>
      bind_eq_some_of (fun _ => mapM_eq_some_of_forall₂
        (fun _ _ ⟨_, h⟩ _ hv => h ▸ readInterrupt_parsedNode _ hv) (findAll_parsedNode t e "interrupt"))
        fun _ =>
      bind_eq_some_of (fun _ => bind_eq_some_of_rel (find_parsedNode t e "registers")
        fun _ _ ⟨_, h⟩ hv => by rw [h, parsedNode_children]; exact readMembers_parsedChildren 0 _ hv)
        fun _ => id) h
  · rw [if_neg htag] at h
    exact absurd h (by simp)

theorem readDeviceTexts_parsedNode {e : Element} {texts : String × String × String × String × String}
    (h : readDeviceTexts e = some texts) : readDeviceTexts (parsedNode t e) = some texts :=
  bind_eq_some_of (fun _ => readText_parsedNode t) (fun _ =>
    bind_eq_some_of (fun _ => readText_parsedNode t) fun _ =>
    bind_eq_some_of (fun _ => readText_parsedNode t) fun _ =>
    bind_eq_some_of (fun _ => readText_parsedNode t) fun _ =>
    bind_eq_some_of (fun _ => readText_parsedNode t) fun _ => id) h

/-- The reader does not look at attributes. -/
theorem readDevice_with_attrib (e : Element) (attrib : List (String × String)) :
    readDevice { e with attrib := attrib } = readDevice e := by
  obtain ⟨⟩ := e
  rfl

/-- Whatever the reader reads off a tree, it reads off the tree's parse, whatever attributes
the parser reports on the root. -/
theorem readDevice_parsed {e : Element} {info : DeviceInfo} (h : readDevice e = some info)
    (attrib : List (String × String)) :
    readDevice { parsedNode t e with attrib := attrib } = some info := by
  rw [readDevice_with_attrib]
  unfold readDevice at h ⊢
  rw [parsedNode_tag]
  by_cases htag : e.tag = .name "device"
  · rw [if_pos htag] at h ⊢
    exact bind_eq_some_of (fun _ => readDeviceTexts_parsedNode t) (fun _ =>
      bind_eq_some_of (fun _ => readText_bind_parsedNode t) fun _ =>
      bind_eq_some_of (fun _ => bind_eq_some_of_rel (find_parsedNode t e "peripherals")
        fun _ _ ⟨t', h⟩ hv => h ▸ mapM_children_parsedNode t' (fun c hc => by simp [readPeripheral, hc])
          (fun _ _ _ => readPeripheral_parsedNode _) hv)
        fun _ => id) h
  · rw [if_neg htag] at h
    exact absurd h (by simp)

end Parsed

/-- Whatever the reader reads off a tree, it reads the same off the tree's parse. -/
theorem readDevice_parsedNode (t : Option String) {e : Element} {info : DeviceInfo}
    (h : readDevice e = some info) : readDevice (parsedNode t e) = some info :=
  readDevice_parsed t h (parsedNode t e).attrib

theorem readDevice_parsedNode_device :
    let peripheral : Element := ⟨.name "peripheral", [], none, none,
      [leaf "name" "uart0", leaf "baseAddress" "0x40000000", ⟨.name "registers", [], none, none, []⟩,
        comment "end of uart0"]⟩
    let device : Element := ⟨.name "device", [], none, none,
      [leaf "name" "top", leaf "version" "1.0", leaf "description" "", leaf "width" "32",
        leaf "size" "32", leaf "addressUnitBits" "8",
        ⟨.name "peripherals", [], none, none, [peripheral]⟩]⟩
    let info : DeviceInfo := ⟨"top", "1.0", "", "32", "32", 8, [⟨"uart0", "0x40000000", [], []⟩]⟩
    readDevice device = some info ∧ readDevice (parsedNode none device) = some info := by
  intro peripheral device info
  have h : readDevice device = some info := rfl
  exact ⟨h, readDevice_parsedNode none h⟩

theorem tag_of_readDevice {e : Element} {info : DeviceInfo} (h : readDevice e = some info) :
    e.tag = .name "device" := by
  by_contra htag
  simp [readDevice, htag] at h

/-- The file `write_svd` writes for what `convert_top_to_svd` returns, parsed by ElementTree,
reads back as the HJSON input: the top's name and data width, the version and description
given, and for each module its peripheral, interrupts and register map. -/
theorem convertTopToSvd_parsed_read {top : Top} {ips : String → Option Ip}
    {version description : String} {verify : Bool} {validate : Element → Except Error Unit}
    {root : Element} (h : convertTopToSvd top ips version description verify validate = .ok root)
    (header encoding : String) :
    ∃ tree info, parseTokens (writeSvd header encoding root) = some tree ∧
      readDevice tree = some info ∧ DeviceMeans top ips version description info := by
  obtain ⟨device, hd, rfl⟩ := convertTopToSvd_eq_ok h
  obtain ⟨info, hinfo, hmeans⟩ := generateDevice_read hd
  have hr := indentTree_eq_reindent "\n" device 0
  rw [ind_zero] at hr
  have hroot : readDevice (indentTree device "\n") = some info := by rw [hr, readDevice_reindent, hinfo]
  have htag : (indentTree device "\n").tag ≠ .comment := by simp [tag_of_readDevice hroot]
  have hparse : parseTokens (writeSvd header encoding (indentTree device "\n")) =
      some (parsedNode none (indentTree device "\n")) := by
    rw [writeSvd_eq]
    exact parseTokens_prolog (by rfl) htag
  exact ⟨_, info, hparse, readDevice_parsed none hroot (parsedNode none (indentTree device "\n")).attrib,
    hmeans⟩

theorem convertTopToSvd_parsed_read_uart :
    let ctrl : Reg := { Reg.empty with
      name := some "CTRL", desc := some " c\n", genoffset := some 0, swaccess := some "rw",
      fields := some [⟨some "en", some "", some (1, 1, 0), some "rw1c"⟩] }
    let top : Top := ⟨some "top", some "32", some [⟨some "uart0", some "uart", some "0x40000000"⟩]⟩
    let ips (type : String) : Option Ip :=
      if type = "uart" then some ⟨some [⟨some "tx"⟩], some [ctrl]⟩ else none
    ∃ root, convertTopToSvd top ips "1.0" "test" true (fun _ => pure ()) = .ok root ∧
      ∃ tree info, parseTokens (writeSvd "header" "UTF-8" root) = some tree ∧
        readDevice tree = some info ∧ DeviceMeans top ips "1.0" "test" info := by
  intro ctrl top ips
  obtain ⟨root, h⟩ : ∃ root,
    convertTopToSvd top ips "1.0" "test" true (fun _ => pure ()) = .ok root := ⟨_, rfl⟩
  exact ⟨root, h, convertTopToSvd_parsed_read h "header" "UTF-8"⟩

end SvdGen
