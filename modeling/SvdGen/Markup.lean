import SvdGen.Convert

/-! The characters `write_svd` writes. `ElementTree.write` renders each `write` of
`_serialize_xml` as text: tags and attributes as markup, character data through
`_escape_cdata`, attribute values through `_escape_attrib`, comments as they are. -/
namespace SvdGen

/-- `_escape_cdata`: `&`, `<` and `>` become entity references. `&` is replaced first, so the
three `replace` calls escape each character on its own. -/
def escapeCdataChar : Char → List Char
  | '&' => "&amp;".toList
  | '<' => "&lt;".toList
  | '>' => "&gt;".toList
  | c => [c]

def escapeCdata (text : String) : List Char := text.toList.flatMap escapeCdataChar

/-- `_escape_attrib`: as `_escape_cdata`, and the double quote, the newline and the tab as
`&quot;`, `&#10;` and `&#09;`. A carriage return, which versions of ElementTree treat
differently, is left as it is. -/
def escapeAttribChar : Char → List Char
  | '"' => "&quot;".toList
  | '\n' => "&#10;".toList
  | '\t' => "&#09;".toList
  | c => escapeCdataChar c

def escapeAttrib (value : String) : List Char := value.toList.flatMap escapeAttribChar

/-- ` k="v"` for each attribute, in order. -/
def renderAttrib : List (String × String) → List Char
  | [] => []
  | (k, v) :: attrib => ' ' :: k.toList ++ '=' :: '"' :: escapeAttrib v ++ '"' :: renderAttrib attrib

/-- The text of one `write` of the serializer. -/
def render : Token → List Char
  | .declaration encoding => ("<?xml version='1.0' encoding='" ++ encoding ++ "'?>\n").toList
  | .startTag tag attrib => '<' :: tag.toList ++ renderAttrib attrib ++ ['>']
  | .endTag tag => '<' :: '/' :: tag.toList ++ ['>']
  | .emptyTag tag attrib => '<' :: tag.toList ++ renderAttrib attrib ++ [' ', '/', '>']
  | .comment text => '<' :: '!' :: '-' :: '-' :: text.toList ++ ['-', '-', '>']
  | .text text => escapeCdata text

/-- The document the writes add up to. -/
def document (tokens : List Token) : List Char := tokens.flatMap render

@[simp] theorem document_nil : document [] = [] := rfl

@[simp] theorem document_cons (token : Token) (tokens : List Token) :
    document (token :: tokens) = render token ++ document tokens := rfl

theorem document_append (ts us : List Token) : document (ts ++ us) = document ts ++ document us := by
  simp [document]

/-! ### What escaping leaves out -/

/-- Escaped character data holds no `<` and no `>`, so it cannot be read as markup. -/
theorem not_mem_escapeCdataChar {d : Char} (hd : d = '<' ∨ d = '>') (c : Char) :
    d ∉ escapeCdataChar c := by
  unfold escapeCdataChar
  split
  · rcases hd with rfl | rfl <;> decide
  · rcases hd with rfl | rfl <;> decide
  · rcases hd with rfl | rfl <;> decide
  · rcases hd with rfl | rfl <;> simp_all [eq_comm]

theorem not_mem_escapeCdata {d : Char} (hd : d = '<' ∨ d = '>') (text : String) :
    d ∉ escapeCdata text := by
  simp only [escapeCdata, List.mem_flatMap, not_exists, not_and]
  exact fun c _ => not_mem_escapeCdataChar hd c

end SvdGen
