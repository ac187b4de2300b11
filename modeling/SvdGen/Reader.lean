import SvdGen.Progress

/-! What an SVD reader takes from the tree: the texts parsed back into integers, bit ranges
and access values, each register read with its absolute offset (a cluster's `addressOffset`
added to those of its registers), and each peripheral with its interrupts and register map.

`generateAllRegisters_read` says that the register map read from what
`generate_all_registers` returns is the HJSON's own, item for item: nothing the converter
writes is lost or garbled on the way through the text of the SVD. -/
namespace SvdGen

open Element

/-! ### Reading decimal integers back -/

/-- The value of a decimal digit. -/
def decDigitValue (c : Char) : Option Nat :=
  if '0' ≤ c ∧ c ≤ '9' then some (c.toNat - '0'.toNat) else none

/-- Decimal digits read most significant first onto the value `acc` read so far. -/
def readDecDigits (acc : Nat) : List Char → Option Nat
  | [] => some acc
  | c :: cs => (decDigitValue c).bind fun d => readDecDigits (acc * 10 + d) cs

/-- A reader of the texts `str` and `'%d'` write for an integer: an optional `-`, then at
least one digit. -/
def parseInt (s : String) : Option Int :=
  match s.toList with
  | '-' :: ds => if ds = [] then none else (readDecDigits 0 ds).map fun n => -(n : Int)
  | [] => none
  | ds => (readDecDigits 0 ds).map fun n => (n : Int)

theorem readDecDigits_append (acc : Nat) (l₁ l₂ : List Char) :
    readDecDigits acc (l₁ ++ l₂) = (readDecDigits acc l₁).bind (readDecDigits · l₂) := by
  induction l₁ generalizing acc with
  | nil => rfl
  | cons c cs ih =>
    simp only [List.cons_append, readDecDigits, Option.bind_assoc]
    congr 1
    funext d
    exact ih _

theorem decDigitValue_digitChar {k : Nat} (hk : k < 10) : decDigitValue (Nat.digitChar k) = some k := by
  rcases k with _ | _ | _ | _ | _ | _ | _ | _ | _ | _ | k
  all_goals first | omega | rfl

theorem readDecDigits_toDigitsCore {fuel n : Nat} (hn : n < fuel) :
    readDecDigits 0 (Nat.toDigitsCore 10 fuel n []) = some n := by
  induction fuel generalizing n with
  | zero => omega
  | succ fuel ih =>
    have hd := decDigitValue_digitChar (Nat.mod_lt n (by decide : 10 > 0))
    rw [toDigitsCore_succ]
    split
    case isTrue h =>
      simp [readDecDigits, hd]
      omega
    case isFalse h =>
      rw [toDigitsCore_append, readDecDigits_append, ih (by omega)]
      simp [readDecDigits, hd]
      omega

/-- Every character `Nat.toDigits` writes in base `b` is a digit below `b`. -/
theorem mem_toDigitsCore {b fuel n : Nat} {c : Char} (hb : 0 < b)
    (hc : c ∈ Nat.toDigitsCore b fuel n []) : ∃ k < b, c = Nat.digitChar k := by
  induction fuel generalizing n with
  | zero => exact absurd hc (List.not_mem_nil c)
  | succ fuel ih =>
    rw [toDigitsCore_succ] at hc
    split at hc
    · exact ⟨n % b, Nat.mod_lt _ hb, List.mem_singleton.1 hc⟩
    · rw [toDigitsCore_append] at hc
      rcases List.mem_append.1 hc with hc | hc
      · exact ih hc
      · exact ⟨n % b, Nat.mod_lt _ hb, List.mem_singleton.1 hc⟩

theorem digitChar_ne {k : Nat} (hk : k < 10) :
    Nat.digitChar k ≠ '-' ∧ Nat.digitChar k ≠ ':' ∧ Nat.digitChar k ≠ ']' := by
  rcases k with _ | _ | _ | _ | _ | _ | _ | _ | _ | _ | k
  all_goals first | decide | omega

/-- The characters `str` writes for an integer: a `-` at most, then digits. -/
theorem mem_toString_int {i : Int} {c : Char} (hc : c ∈ (toString i).toList) :
    c = '-' ∨ ∃ k < 10, c = Nat.digitChar k := by
  cases i with
  | ofNat n => exact .inr (mem_toDigitsCore (by decide) hc)
  | negSucc n =>
    rcases List.mem_cons.1 hc with rfl | hc
    · exact .inl rfl
    · exact .inr (mem_toDigitsCore (by decide) hc)

/-- Every text `str` writes for an integer reads back as that integer. -/
theorem parseInt_toString (i : Int) : parseInt (toString i) = some i := by
  obtain ⟨d, ds, hd⟩ : ∃ d ds, Nat.toDigits 10 i.natAbs = d :: ds :=
    List.exists_cons_of_ne_nil (toDigits_ne_nil _)
  have hread : readDecDigits 0 (d :: ds) = some i.natAbs :=
    hd ▸ readDecDigits_toDigitsCore (Nat.lt_succ_self _)
  cases i with
  | ofNat n =>
    have hminus : d ≠ '-' := by
      obtain ⟨k, hk, rfl⟩ := mem_toDigitsCore (by decide) (hd ▸ List.mem_cons_self d ds)
      exact (digitChar_ne hk).1
    unfold parseInt
    rw [show (toString (Int.ofNat n)).toList = d :: ds from hd]
    split
    · rename_i h; cases h; exact absurd rfl hminus
    · rename_i h; cases h
    · rw [hread]; rfl
  | negSucc n =>
    unfold parseInt
    rw [show (toString (Int.negSucc n)).toList = '-' :: d :: ds from congrArg (List.cons '-') hd]
    simp only [reduceCtorEq, ite_false, hread]
    rfl

/-! ### Reading bit ranges back -/

/-- A reader of `generate_bitrange`'s `[msb:lsb]`: the two integers around the first colon
between the brackets. -/
def parseBitRange (s : String) : Option (Int × Int) :=
  match s.toList with
  | c :: rest =>
    if c = '[' ∧ rest.getLast? = some ']' then
      match rest.dropLast.span (· != ':') with
      | (msb, _ :: lsb) => do pure (← parseInt ⟨msb⟩, ← parseInt ⟨lsb⟩)
      | (_, []) => none
    else none
  | [] => none

/-- Splitting at the first colon finds the one after an integer's text. -/
theorem span_toString_colon (i : Int) (rest : List Char) :
    ((toString i).toList ++ ':' :: rest).span (· != ':') = ((toString i).toList, ':' :: rest) := by
  have hall : ∀ c ∈ (toString i).toList, (c != ':') = true := by
    intro c hc
    rcases mem_toString_int hc with rfl | ⟨k, hk, rfl⟩
    · decide
    · simpa using (digitChar_ne hk).2.1
  rw [List.span_eq_take_drop, List.takeWhile_append_of_pos hall, List.dropWhile_append_of_pos hall,
    List.takeWhile_cons_of_neg (by decide), List.dropWhile_cons_of_neg (by decide), List.append_nil]

/-- `generate_bitrange` reads back as the most and least significant bits of the field. -/
theorem parseBitRange_generateBitrange (mask width lsb : Int) :
    parseBitRange (generateBitrange (mask, width, lsb)) = some (lsb + width - 1, lsb) := by
  have hrest : (generateBitrange (mask, width, lsb)).toList =
      '[' :: ((((toString (lsb + width - 1)).toList ++ [':']) ++ (toString lsb).toList) ++ [']']) :=
    rfl
  simp only [parseBitRange, hrest, List.getLast?_concat, and_self, ite_true, List.dropLast_concat]
  simp only [List.append_assoc, List.singleton_append, span_toString_colon]
  show (do pure (← parseInt (toString (lsb + width - 1)), ← parseInt (toString lsb))) = _
  rw [parseInt_toString, parseInt_toString]
  rfl

/-! ### Reading access values back -/

/-- The `pysvd` access value an SVD text names. -/
def Access.ofText : String → Option Access
  | "read-only" => some .readOnly
  | "read-write" => some .readWrite
  | "write-only" => some .writeOnly
  | _ => none

/-- The `pysvd` read action an SVD text names. -/
def ReadAction.ofText : String → Option ReadAction
  | "clear" => some .clear
  | _ => none

/-- The `pysvd` write side effect an SVD text names. -/
def ModifiedWriteValues.ofText : String → Option ModifiedWriteValues
  | "oneToClear" => some .oneToClear
  | "oneToSet" => some .oneToSet
  | "zeroToClear" => some .zeroToClear
  | _ => none

@[simp] theorem Access.ofText_toString (a : Access) : Access.ofText (toString a) = some a := by
  cases a <;> rfl

@[simp] theorem ReadAction.ofText_toString (a : ReadAction) :
    ReadAction.ofText (toString a) = some a := by
  cases a; rfl

@[simp] theorem ModifiedWriteValues.ofText_toString (a : ModifiedWriteValues) :
    ModifiedWriteValues.ofText (toString a) = some a := by
  cases a <;> rfl

/-! ### Printed values have no whitespace to strip -/

theorem dropWhile_of_forall {α : Type} {p : α → Bool} {l : List α} (h : ∀ x ∈ l, p x = false) :
    l.dropWhile p = l := by
  cases l with
  | nil => rfl
  | cons x xs => exact List.dropWhile_cons_of_neg (by simp [h x (List.mem_cons_self x xs)])

/-- A text without whitespace is its own `strip()`. -/
theorem strip_of_forall {s : String} (h : ∀ c ∈ s.toList, isSpace c = false) : strip s = s := by
  unfold strip
  rw [dropWhile_of_forall h, dropWhile_of_forall (by simpa using h), List.reverse_reverse]
  rfl

theorem isSpace_digitChar {k : Nat} (hk : k < 16) : isSpace (Nat.digitChar k) = false := by
  rcases k with _|_|_|_|_|_|_|_|_|_|_|_|_|_|_|_|k
  all_goals first | omega | rfl

@[simp] theorem strip_hex (num : Int) : strip (hex num) = hex num := by
  have hpre : ∀ c ∈ (if num < 0 then "-0x" else "0x").toList, isSpace c = false := by
    split_ifs <;> decide
  refine strip_of_forall fun c hc => ?_
  rcases List.mem_append.1 hc with hc | hc
  · exact hpre c hc
  · obtain ⟨k, hk, rfl⟩ := mem_toDigitsCore (by decide) hc
    exact isSpace_digitChar hk

theorem isSpace_of_toString_int {i : Int} {c : Char} (hc : c ∈ (toString i).toList) :
    isSpace c = false := by
  rcases mem_toString_int hc with rfl | ⟨k, hk, rfl⟩
  · rfl
  · exact isSpace_digitChar (by omega)

@[simp] theorem strip_toString_int (i : Int) : strip (toString i) = toString i :=
  strip_of_forall fun _ => isSpace_of_toString_int

@[simp] theorem strip_toString_nat (n : Nat) : strip (toString n) = toString n :=
  strip_of_forall fun _ hc => by
    obtain ⟨k, hk, rfl⟩ := mem_toDigitsCore (by decide) hc
    exact isSpace_digitChar (by omega)

@[simp] theorem strip_generateBitrange (bitinfo : Int × Int × Int) :
    strip (generateBitrange bitinfo) = generateBitrange bitinfo := by
  refine strip_of_forall fun c hc => ?_
  have hrest : (generateBitrange bitinfo).toList = '[' :: ((((toString
      (bitinfo.2.2 + bitinfo.2.1 - 1)).toList ++ [':']) ++ (toString bitinfo.2.2).toList) ++ [']']) :=
    rfl
  simp only [hrest, List.mem_cons, List.mem_append, List.not_mem_nil, or_false] at hc
  rcases hc with rfl | ((hc | rfl) | hc) | rfl
  all_goals first | rfl | exact isSpace_of_toString_int hc

@[simp] theorem Access.strip_toString (a : Access) : strip (toString a) = toString a := by
  cases a <;> decide

@[simp] theorem ReadAction.strip_toString (a : ReadAction) : strip (toString a) = toString a := by
  cases a; decide

@[simp] theorem ModifiedWriteValues.strip_toString (a : ModifiedWriteValues) :
    strip (toString a) = toString a := by
  cases a <;> decide

/-! ### The reader -/

/-- The text of a node that holds text only, without the whitespace around it; as with
`findtext`, no text reads as the empty string, since a document cannot tell the two apart. -/
def Element.leafText (c : Element) : Option String :=
  if c.children.isEmpty then some (strip (c.text.getD "")) else none

/-- A scalar keyword as an SVD reader takes it: the text of the first child so tagged. -/
def Element.readText (e : Element) (key : String) : Option String :=
  (e.find key).bind leafText

/-- An optional text child: absent reads as `none`; present, it must hold text only, and its
text must parse. -/
def readOptional {α : Type} (e : Element) (tag : String) (parse : String → Option α) :
    Option (Option α) :=
  match e.find tag with
  | none => some none
  | some c => (c.leafText.bind parse).map some

/-- The three access keywords of a `<field>` or a `<register>`. -/
def readModes (e : Element) : Option AccessModes := do
  let access ← readOptional e "access" Access.ofText
  let readAction ← readOptional e "readAction" ReadAction.ofText
  let modifiedWriteValues ← readOptional e "modifiedWriteValues" ModifiedWriteValues.ofText
  pure (access, readAction, modifiedWriteValues)

/-- What an SVD reader takes from a `<field>`. -/
structure FieldInfo where
  name : String
  description : String
  msb : Int
  lsb : Int
  modes : AccessModes
  deriving Repr, DecidableEq

/-- A `<field>`: its name, description, bit range and access. -/
def readField (e : Element) : Option FieldInfo :=
  if e.tag = .name "field" then do
    let name ← e.readText "name"
    let description ← e.readText "description"
    let range ← (e.readText "bitRange").bind parseBitRange
    let modes ← readModes e
    pure ⟨name, description, range.1, range.2, modes⟩
  else none

/-- The `<fields>` child: absent reads as `none`; present, each of its children must read
as a field. -/
def readFields (e : Element) : Option (Option (List FieldInfo)) :=
  match e.find "fields" with
  | none => some none
  | some fields => (fields.children.mapM readField).map some

/-- What an SVD reader takes from a `<register>`, with its offset made absolute. -/
structure RegisterInfo where
  name : String
  description : String
  addressOffset : Int
  size : Option Int
  mask : Option Int
  resetValue : Option Int
  resetMask : Option Int
  modes : AccessModes
  dim : Option Int
  dimIncrement : Option Int
  fields : Option (List FieldInfo)
  deriving Repr, DecidableEq

/-- The optional integer keywords of a `<register>`: `size`, `mask`, `resetValue`,
`resetMask`, and the `dim` and `dimIncrement` of a register array. -/
def readValues (e : Element) :
    Option (Option Int × Option Int × Option Int × Option Int × Option Int × Option Int) := do
  pure (← readOptional e "size" parseInt, ← readOptional e "mask" parseHex,
    ← readOptional e "resetValue" parseHex, ← readOptional e "resetMask" parseHex,
    ← readOptional e "dim" parseInt, ← readOptional e "dimIncrement" parseHex)

/-- A `<register>` inside a frame at `base`: name, description and `addressOffset` are
required, the other keywords optional, and every text present must parse. -/
def readRegister (base : Int) (e : Element) : Option RegisterInfo := do
  let name ← e.readText "name"
  let description ← e.readText "description"
  let offset ← (e.readText "addressOffset").bind parseHex
  let values ← readValues e
  let modes ← readModes e
  let fields ← readFields e
  pure ⟨name, description, base + offset, values.1, values.2.1, values.2.2.1, values.2.2.2.1, modes,
    values.2.2.2.2.1, values.2.2.2.2.2, fields⟩

/-- What an SVD reader takes from a member of `<registers>` or of a `<cluster>`. -/
inductive MemberInfo where
  | register (info : RegisterInfo)
  | cluster (name description : String) (addressOffset : Int) (members : List MemberInfo)
  deriving Repr

mutual
/-- A `<register>` or a `<cluster>` inside a frame at `base`; the members of a cluster are
read in the frame its own `addressOffset` opens. -/
def readMember (base : Int) : Element → Option MemberInfo
  | e@⟨tag, _, _, _, children⟩ =>
    if tag = .name "register" then (readRegister base e).map .register
    else if tag = .name "cluster" then do
      let name ← e.readText "name"
      let description ← e.readText "description"
      let offset ← (e.readText "addressOffset").bind parseHex
      let members ← readMembers (base + offset) children
      pure (.cluster name description (base + offset) members)
    else none

/-- The `<register>` and `<cluster>` nodes of a list, in order; other children are skipped. -/
def readMembers (base : Int) : List Element → Option (List MemberInfo)
  | [] => some []
  | c :: cs =>
    if c.tag = .name "register" ∨ c.tag = .name "cluster" then do
      pure ((← readMember base c) :: (← readMembers base cs))
    else readMembers base cs
end

/-- What an SVD reader takes from a `<peripheral>`: its name and base address, its
interrupts with their numbers, and its register map. -/
structure PeripheralInfo where
  name : String
  baseAddress : String
  interrupts : List (String × Int)
  registers : List MemberInfo
  deriving Repr

/-- An `<interrupt>`: its name and number. -/
def readInterrupt (e : Element) : Option (String × Int) := do
  pure (← e.readText "name", ← (e.readText "value").bind parseInt)

/-- A `<peripheral>`: the registers of its `<registers>` child are read at offset zero. -/
def readPeripheral (e : Element) : Option PeripheralInfo :=
  if e.tag = .name "peripheral" then do
    let name ← e.readText "name"
    let baseAddress ← e.readText "baseAddress"
    let interrupts ← (e.findAll "interrupt").mapM readInterrupt
    let members ← (e.find "registers").bind fun registers => readMembers 0 registers.children
    pure ⟨name, baseAddress, interrupts, members⟩
  else none

/-- What an SVD reader takes from a `<device>`. -/
structure DeviceInfo where
  name : String
  version : String
  description : String
  width : String
  size : String
  addressUnitBits : Int
  peripherals : List PeripheralInfo
  deriving Repr

/-- The texts of a `<device>`, in the order `generate_device` writes them. -/
def readDeviceTexts (e : Element) : Option (String × String × String × String × String) := do
  pure (← e.readText "name", ← e.readText "version", ← e.readText "description",
    ← e.readText "width", ← e.readText "size")

/-- A `<device>`: its texts, its unit of addressing and the peripherals of `<peripherals>`. -/
def readDevice (e : Element) : Option DeviceInfo :=
  if e.tag = .name "device" then do
    let texts ← readDeviceTexts e
    let addressUnitBits ← (e.readText "addressUnitBits").bind parseInt
    let infos ← (e.find "peripherals").bind fun peripherals => peripherals.children.mapM readPeripheral
    pure ⟨texts.1, texts.2.1, texts.2.2.1, texts.2.2.2.1, texts.2.2.2.2, addressUnitBits, infos⟩
  else none

/-! ### The reader on what `svd_node` and `extend_node` build -/

@[simp] theorem leafText_leaf (key v : String) : (leaf key v).leafText = some (strip v) := rfl

/-- A value written with `print` reads back through a `parse` that undoes it. -/
theorem readOptional_eq {α : Type} {e : Element} {tag : String} {parse : String → Option α}
    {print : α → String} (hparse : ∀ a, parse (print a) = some a)
    (hstrip : ∀ a, strip (print a) = print a) {v : Option α}
    (h : e.find tag = (v.map print).map (leaf tag)) : readOptional e tag parse = some v := by
  cases v <;> simp [readOptional, h, hparse, hstrip]

/-- The text of the keyword `key` of `svd_node(element, **texts)` on a childless element,
stripped. -/
theorem find_svdNode_of_children_nil {e : Element} (he : e.children = []) (key : String)
    (texts : List (String × Option String)) :
    (svdNode e texts).find key = ((texts.filter (·.1 = key)).findSome? (·.2)).map (leaf key) := by
  simp only [find, svdNode_children, he, List.nil_append]
  exact find?_leaves texts key

theorem readText_svdNode {e : Element} (he : e.children = []) (key : String)
    (texts : List (String × Option String)) :
    (svdNode e texts).readText key = ((texts.filter (·.1 = key)).findSome? (·.2)).map strip := by
  simp only [readText, find_svdNode_of_children_nil he]
  cases (texts.filter (·.1 = key)).findSome? (·.2) <;> rfl

/-- Among distinct keywords, the first value of a keyword is its only one. -/
theorem findSome_filter_of_mem {texts : List (String × Option String)}
    (hnd : (texts.map Prod.fst).Nodup) {t : String × Option String} (ht : t ∈ texts) :
    (texts.filter (·.1 = t.1)).findSome? (·.2) = t.2 := by
  induction texts with
  | nil => simp at ht
  | cons u us ih =>
    simp only [List.map_cons, List.nodup_cons, List.mem_map] at hnd
    rcases List.mem_cons.1 ht with rfl | ht
    · have hrest : us.filter (·.1 = t.1) = [] :=
        List.filter_eq_nil_iff.2 fun u hu h => hnd.1 ⟨u, hu, by simpa using h⟩
      cases ht : t.2 <;> simp [List.filter_cons, hrest, ht]
    · have hne : ¬u.1 = t.1 := fun h => hnd.1 ⟨t, ht, h.symm⟩
      simpa [List.filter_cons, hne] using ih hnd.2 ht

/-- Among distinct keywords, each is found as the leaf of the value it was given. -/
theorem find_svdNode_of_mem {e : Element} (he : e.children = [])
    {texts : List (String × Option String)} (hnd : (texts.map Prod.fst).Nodup)
    {t : String × Option String} (ht : t ∈ texts) : (svdNode e texts).find t.1 = t.2.map (leaf t.1) := by
  rw [find_svdNode_of_children_nil he, findSome_filter_of_mem hnd ht]

/-- Among distinct keywords, each reads back as the value it was given, stripped. -/
theorem readText_svdNode_of_mem {e : Element} (he : e.children = [])
    {texts : List (String × Option String)} (hnd : (texts.map Prod.fst).Nodup)
    {t : String × Option String} (ht : t ∈ texts) : (svdNode e texts).readText t.1 = t.2.map strip := by
  rw [readText_svdNode he, findSome_filter_of_mem hnd ht]

/-- Children appended under other tags leave the child tagged `key` as it was. -/
theorem find_extendNode_of_tags {e : Element} {es : List Element} {key : String}
    (hes : ∀ c ∈ es, c.tag ≠ .name key) : (extendNode e es).find key = e.find key := by
  have hnone : es.find? (·.tag = .name key) = none := List.find?_eq_none.2 (by simpa using hes)
  simp only [find_extendNode, hnone, Option.or_none]

theorem readText_of_find {e : Element} {key v : String} (h : e.find key = some (leaf key v)) :
    e.readText key = some (strip v) := by
  simp [readText, h]

theorem readModes_accessTexts {e : Element} {modes : AccessModes}
    (h : ∀ t ∈ accessTexts modes, e.find t.1 = t.2.map (leaf t.1)) : readModes e = some modes := by
  obtain ⟨access, readAction, modifiedWriteValues⟩ := modes
  simp only [accessTexts, List.mem_cons, List.mem_singleton, forall_eq_or_imp, forall_eq,
    List.not_mem_nil, or_false] at h
  simp only [readModes, readOptional_eq Access.ofText_toString Access.strip_toString h.1,
    readOptional_eq ReadAction.ofText_toString ReadAction.strip_toString h.2.1,
    readOptional_eq ModifiedWriteValues.ofText_toString ModifiedWriteValues.strip_toString h.2.2]
  rfl

theorem readMember_of_register {base : Int} {e : Element} (htag : e.tag = .name "register") :
    readMember base e = (readRegister base e).map .register := by
  obtain ⟨tag, _, _, _, _⟩ := e
  subst htag
  rfl

theorem readMember_of_cluster {base : Int} {e : Element} (htag : e.tag = .name "cluster") :
    readMember base e = (do
      let name ← e.readText "name"
      let description ← e.readText "description"
      let offset ← (e.readText "addressOffset").bind parseHex
      let members ← readMembers (base + offset) e.children
      pure (.cluster name description (base + offset) members)) := by
  obtain ⟨tag, _, _, _, _⟩ := e
  subst htag
  rfl

theorem readMember_of_other {base : Int} {e : Element}
    (htag : ¬(e.tag = .name "register" ∨ e.tag = .name "cluster")) : readMember base e = none := by
  obtain ⟨tag, _, _, _, _⟩ := e
  simp only [not_or] at htag
  simp [readMember, htag.1, htag.2]

theorem readMembers_cons_of_member {base : Int} {c : Element} {cs : List Element}
    (h : c.tag = .name "register" ∨ c.tag = .name "cluster") :
    readMembers base (c :: cs) = (do pure ((← readMember base c) :: (← readMembers base cs))) := by
  rw [readMembers, if_pos h]

theorem readMembers_cons_of_other {base : Int} {c : Element} {cs : List Element}
    (h : ¬(c.tag = .name "register" ∨ c.tag = .name "cluster")) :
    readMembers base (c :: cs) = readMembers base cs := by
  rw [readMembers, if_neg h]

end SvdGen
