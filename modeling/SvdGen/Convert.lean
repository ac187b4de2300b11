import SvdGen.Serialize

/-! The converter end to end: `convert_top_to_svd` builds the device, indents it and lets
`pysvd` check it; `write_svd` writes the declaration, the header comment and the tree. The
`pysvd` parser is a parameter: the check either passes or raises. -/
namespace SvdGen

open Element

/-- `convert_top_to_svd`; `validate` stands for `pysvd.element.Device`. -/
def convertTopToSvd (top : Top) (ips : String → Option Ip) (version description : String)
    (verify : Bool) (validate : Element → Except Error Unit) : Except Error Element := do
  let root ← generateDevice top ips version description
  let root := indentTree root "\n"
  if verify then validate root
  pure root

/-- `write_svd`: the XML declaration in the locale's `encoding`, the `header` comment
(`GENHDR`) with a newline as tail, then the device. -/
def writeSvd (header encoding : String) (device : Element) : List Token :=
  .declaration encoding :: serialize { comment header with tail := some "\n" } ++ serialize device

theorem writeSvd_eq (header encoding : String) (device : Element) :
    writeSvd header encoding device =
      [.declaration encoding, .comment header, .text "\n"] ++ serialize device := rfl

theorem convertTopToSvd_eq_ok {top : Top} {ips : String → Option Ip}
    {version description : String} {verify : Bool} {validate : Element → Except Error Unit}
    {root : Element} (h : convertTopToSvd top ips version description verify validate = .ok root) :
    ∃ device, generateDevice top ips version description = .ok device ∧
      root = indentTree device "\n" := by
  simp only [convertTopToSvd, bind_eq_ok] at h
  obtain ⟨device, hd, h⟩ := h
  refine ⟨device, hd, ?_⟩
  cases verify
  · exact (pure_eq_ok.1 h).symm
  · obtain ⟨_, -, h⟩ := bind_eq_ok.1 h
    exact (pure_eq_ok.1 h).symm

/-- Every node of the tree `generate_device` returns has no children or no text, so
`indent_tree` keeps every node's non-whitespace text and tail. -/
theorem generateDevice_leafOrParent {top : Top} {ips : String → Option Ip}
    {version description : String} {device : Element}
    (h : generateDevice top ips version description = .ok device) :
    Every LeafOrParent device ∧
      (indentTree device "\n").nodes.map Element.content = device.nodes.map Element.content := by
  have hfresh := generateDevice_fresh h
  have hind := indentTree_eq_reindent "\n" device 0
  rw [ind_zero] at hind
  exact ⟨hfresh.mono fun _ hn => hn.1,
    hind ▸ reindent_content (by decide) 0 _ device (by decide) hfresh⟩

theorem generateDevice_leafOrParent_uart :
    let ctrl : Reg := { Reg.empty with name := some "CTRL", desc := some "c", genoffset := some 0 }
    let top : Top := ⟨some "top", some "32", some [⟨some "uart0", some "uart", some "0x40000000"⟩]⟩
    let ips (type : String) : Option Ip :=
      if type = "uart" then some ⟨some [⟨some "tx"⟩], some [ctrl]⟩ else none
    ∃ device, generateDevice top ips "1.0" "test" = .ok device ∧ Every LeafOrParent device ∧
      (indentTree device "\n").nodes.map Element.content = device.nodes.map Element.content := by
  intro ctrl top ips
  obtain ⟨device, h⟩ : ∃ device, generateDevice top ips "1.0" "test" = .ok device := ⟨_, rfl⟩
  exact ⟨device, h, generateDevice_leafOrParent h⟩

/-- What `write_svd` writes of a converted tree: the declaration, the header comment and a
newline, then the device as the spec lays it out, every child after the indentation of its
depth, and a final newline; and no node lost non-whitespace text to the indentation. -/
theorem convertTopToSvd_written {top : Top} {ips : String → Option Ip}
    {version description : String} {verify : Bool} {validate : Element → Except Error Unit}
    {root : Element} (h : convertTopToSvd top ips version description verify validate = .ok root)
    (header encoding : String) :
    ∃ device, generateDevice top ips version description = .ok device ∧
      root.nodes.map Element.content = device.nodes.map Element.content ∧
      writeSvd header encoding root =
        [.declaration encoding, .comment header, .text "\n"] ++ layout "\n" 0 device ++ [.text "\n"] := by
  obtain ⟨device, hd, rfl⟩ := convertTopToSvd_eq_ok h
  have hind := indentTree_eq_reindent "\n" device 0
  rw [ind_zero] at hind
  refine ⟨device, hd, hind ▸ reindent_content (by decide) 0 _ device (by decide)
    (generateDevice_fresh hd), ?_⟩
  rw [writeSvd_eq, hind, serialize_reindent, List.append_assoc]
  rfl

theorem convertTopToSvd_written_uart :
    let ctrl : Reg := { Reg.empty with name := some "CTRL", desc := some "c", genoffset := some 0 }
    let top : Top := ⟨some "top", some "32", some [⟨some "uart0", some "uart", some "0x40000000"⟩]⟩
    let ips (type : String) : Option Ip :=
      if type = "uart" then some ⟨some [⟨some "tx"⟩], some [ctrl]⟩ else none
    ∃ root, convertTopToSvd top ips "1.0" "test" true (fun _ => pure ()) = .ok root ∧
      ∃ device, generateDevice top ips "1.0" "test" = .ok device ∧
        root.nodes.map Element.content = device.nodes.map Element.content ∧
        writeSvd "header" "UTF-8" root = [.declaration "UTF-8", .comment "header", .text "\n"] ++
          layout "\n" 0 device ++ [.text "\n"] := by
  intro ctrl top ips
  obtain ⟨root, h⟩ : ∃ root,
    convertTopToSvd top ips "1.0" "test" true (fun _ => pure ()) = .ok root := ⟨_, rfl⟩
  exact ⟨root, h, convertTopToSvd_written h "header" "UTF-8"⟩

end SvdGen
