import SvdGen.Lex
import SvdGen.Parse

/-! Between the tokenizer and the tree builder. `XMLParser` runs expat with namespace
processing on: an `xmlns` or `xmlns:p` attribute binds a namespace for its element and what
the element holds and is not reported; a prefixed name is reported with its namespace, which
`_fixname` writes `{uri}local`. expat also checks what the tokens alone do not show: every end
tag closes the element opened last, by the name as written; every element is closed; and
outside the root element there is only blank character data. `resolve` is that stage, one
event at a time over the stack of open elements; `parseDocument` is `ElementTree.fromstring`
on characters: tokenizer, this stage, then `TreeBuilder`. -/
namespace SvdGen

open Element

/-- An open element as expat keeps it: its name as written and the namespaces it binds, by
prefix (`""` for the default namespace). -/
structure Scope where
  name : String
  bindings : List (String × String)
  deriving Repr, DecidableEq

/-- The namespace an attribute declares: `xmlns="uri"` the default one, `xmlns:p="uri"` the
prefix `p`. -/
def declares (a : String × String) : Option (String × String) :=
  if a.1 = "xmlns" then some ("", a.2)
  else (['x', 'm', 'l', 'n', 's', ':'].isPrefixOf? a.1.toList).map fun p => (⟨p⟩, a.2)

/-- A declaration expat accepts: not of a reserved prefix, and no prefix undeclared. -/
def declarationOk (d : String × String) : Bool :=
  d.1 != "xml" && d.1 != "xmlns" && (d.1 == "" || d.2 != "")

/-- A name in its namespace as `_fixname` writes it: `{uri}local`. -/
def clark (uri localName : String) : String := "\x7b" ++ uri ++ "\x7d" ++ localName

/-- The namespace the prefix `xml` is bound to without a declaration. -/
def xmlNamespace : String := "http://www.w3.org/XML/1998/namespace"

/-- A name as ElementTree reports it under `bindings`, innermost first: `p:local` with `p`
bound as `{uri}local`; an element name without a prefix in the default namespace if one is
bound; an attribute name without a prefix as it is. A prefix nothing binds is an error. -/
def qualify (bindings : List (String × String)) (attr : Bool) (name : String) : Option String :=
  match name.toList.span (· != ':') with
  | (_, []) =>
    match attr, bindings.lookup "" with
    | false, some uri => if uri = "" then some name else some (clark uri name)
    | _, _ => some name
  | (pfx, _ :: localName) =>
    if pfx = [] ∨ localName = [] ∨ ':' ∈ localName then none
    else if pfx = ['x', 'm', 'l'] then some (clark xmlNamespace ⟨localName⟩)
    else (bindings.lookup ⟨pfx⟩).bind fun uri =>
      if uri = "" then none else some (clark uri ⟨localName⟩)

/-- The namespaces bound where the scopes are open. -/
def Scope.bound (scopes : List Scope) : List (String × String) := scopes.flatMap Scope.bindings

/-- A start tag under the open scopes: the scope it opens, and its name and attributes as
reported, its declarations left out and every reported name once. -/
def openScope (scopes : List Scope) (name : String) (attrib : List (String × String)) :
    Option (Scope × String × List (String × String)) :=
  let decls := attrib.filterMap declares
  let bindings := decls ++ Scope.bound scopes
  if decls.all declarationOk then do
    let name' ← qualify bindings false name
    let attrib' ← (attrib.filter fun a => (declares a).isNone).mapM fun a =>
      (qualify bindings true a.1).map (·, a.2)
    if (attrib'.map Prod.fst).Nodup then pure (⟨name, decls⟩, name', attrib') else none
  else none

/-- One event: the open scopes after it, and the event as reported. -/
def resolveToken (scopes : List Scope) : Token → Option (List Scope × Token)
  | .startTag name attrib =>
    (openScope scopes name attrib).map fun (scope, name, attrib) =>
      (scope :: scopes, .startTag name attrib)
  | .emptyTag name attrib =>
    (openScope scopes name attrib).map fun (_, name, attrib) => (scopes, .emptyTag name attrib)
  | .endTag name =>
    match scopes with
    | scope :: rest =>
      if name = scope.name then
        (qualify (Scope.bound scopes) false name).map fun name => (rest, .endTag name)
      else none
    | [] => none
  | .text text =>
    if scopes.isEmpty && !text.toList.all Char.isWhitespace then none else some (scopes, .text text)
  | .comment text => some (scopes, .comment text)
  | .declaration encoding => some (scopes, .declaration encoding)

/-- The events in order, from the given open scopes. -/
def resolveRun : List Scope → List Token → Option (List Scope × List Token)
  | scopes, [] => some (scopes, [])
  | scopes, t :: ts => do
    let (scopes, t) ← resolveToken scopes t
    let (scopes, ts) ← resolveRun scopes ts
    pure (scopes, t :: ts)

/-- The events of a document, which must close every element it opens. -/
def resolve (tokens : List Token) : Option (List Token) := do
  let (scopes, tokens) ← resolveRun [] tokens
  if scopes.isEmpty then some tokens else none

/-- `ElementTree.fromstring` on the characters of a document. -/
def parseDocument (cs : List Char) : Option Element := do
  let tokens ← lexDocument cs
  let events ← resolve tokens
  parseTokens events

/-! ### Runs -/

theorem resolveRun_cons_of {s s' s'' : List Scope} {t t' : Token} {ts ts' : List Token}
    (h : resolveToken s t = some (s', t')) (hs : resolveRun s' ts = some (s'', ts')) :
    resolveRun s (t :: ts) = some (s'', t' :: ts') := by
  simp [resolveRun, h, hs]

theorem resolveRun_append_of {s s' s'' : List Scope} {xs xs' ys ys' : List Token}
    (hx : resolveRun s xs = some (s', xs')) (hy : resolveRun s' ys = some (s'', ys')) :
    resolveRun s (xs ++ ys) = some (s'', xs' ++ ys') := by
  induction xs generalizing s xs' with
  | nil =>
    simp only [resolveRun, Option.some.injEq, Prod.mk.injEq] at hx
    obtain ⟨rfl, rfl⟩ := hx
    exact hy
  | cons t ts ih =>
    simp only [resolveRun, Option.bind_eq_bind, Option.bind_eq_some, Option.pure_def,
      Option.some.injEq, Prod.mk.injEq] at hx
    obtain ⟨⟨s₁, t₁⟩, h₁, ⟨s₂, ts₂⟩, h₂, rfl, rfl⟩ := hx
    exact resolveRun_cons_of h₁ (ih h₂)

/-! ### Names without a namespace -/

/-- A name without a namespace: no colon, and not `xmlns`. -/
def plainName (name : String) : Bool := decide (':' ∉ name.toList) && name != "xmlns"

/-- No default namespace is bound where the scopes are open. -/
def NoDefault (scopes : List Scope) : Prop := (Scope.bound scopes).lookup "" = none

theorem qualify_of_plain {bindings : List (String × String)} (attr : Bool) {name : String}
    (h : ':' ∉ name.toList) (hb : bindings.lookup "" = none) :
    qualify bindings attr name = some name := by
  have hs : (name.toList ++ []).span (· != ':') = (name.toList, []) :=
    span_append_of_stop (fun c hc => by simpa using ne_of_mem_of_not_mem hc h) (by simp)
  rw [List.append_nil] at hs
  simp only [qualify, hs, hb]

theorem declares_of_plain {a : String × String} (h : plainName a.1) : declares a = none := by
  simp only [plainName, Bool.and_eq_true, decide_eq_true_eq, bne_iff_ne, ne_eq] at h
  simp only [declares, h.2, if_false, Option.map_eq_none']
  cases hp : ['x', 'm', 'l', 'n', 's', ':'].isPrefixOf? a.1.toList with
  | none => rfl
  | some rest =>
    exact absurd (show ':' ∈ a.1.toList by rw [eq_append_of_isPrefixOf? hp]; simp) h.1

theorem mapM_qualify_of_plain {bindings : List (String × String)} (hb : bindings.lookup "" = none) :
    ∀ {attrib : List (String × String)}, (∀ a ∈ attrib, plainName a.1) →
      attrib.mapM (fun a => (qualify bindings true a.1).map (·, a.2)) = some attrib
  | [], _ => rfl
  | a :: attrib, h => by
    have ha : ':' ∉ a.1.toList := by
      have := h a (List.mem_cons_self _ _)
      simp_all [plainName]
    rw [List.mapM_cons, qualify_of_plain true ha hb,
      mapM_qualify_of_plain hb fun a' ha' => h a' (List.mem_cons_of_mem _ ha')]
    rfl

/-- A start tag whose names have no namespace opens a scope that binds nothing, and is reported
as it is written. -/
theorem openScope_of_plain {scopes : List Scope} {name : String} {attrib : List (String × String)}
    (hn : ':' ∉ name.toList) (ha : ∀ a ∈ attrib, plainName a.1) (hnd : (attrib.map Prod.fst).Nodup)
    (hd : NoDefault scopes) : openScope scopes name attrib = some (⟨name, []⟩, name, attrib) := by
  have hdecl : attrib.filterMap declares = [] :=
    List.filterMap_eq_nil_iff.2 fun a ha' => declares_of_plain (ha a ha')
  have hfilter : attrib.filter (fun a => (declares a).isNone) = attrib :=
    List.filter_eq_self.2 fun a ha' => by simp [declares_of_plain (ha a ha')]
  simp only [openScope, hdecl, hfilter, List.nil_append, List.all_nil, if_true,
    qualify_of_plain false hn hd, mapM_qualify_of_plain hd ha, hnd, Option.bind_eq_bind,
    Option.some_bind, Option.pure_def]

theorem resolveRun_writeText {scopes : List Scope} (hs : scopes ≠ []) (text : Option String) :
    resolveRun scopes (writeText text) = some (scopes, writeText text) := by
  cases text with
  | none => rfl
  | some t =>
    simp only [writeText]
    split
    · rfl
    · have : scopes.isEmpty = false := by cases scopes <;> simp_all
      simp [resolveRun, resolveToken, this]

/-- A node `resolve` reports as it is written: no namespace in its name or in its attributes'
names, each attribute named once. -/
def NsPlain (n : Element) : Prop :=
  (∀ t, n.tag = .name t → ':' ∉ t.toList) ∧ (∀ a ∈ n.attrib, plainName a.1) ∧
    (n.attrib.map Prod.fst).Nodup

mutual
/-- Inside an element and with no default namespace bound, a serialized tree without
namespaces is reported as it is written, and leaves the open scopes as it found them. -/
theorem resolveRun_serialize : ∀ (e : Element), Every NsPlain e → ∀ scopes : List Scope,
    scopes ≠ [] → NoDefault scopes → resolveRun scopes (serialize e) = some (scopes, serialize e)
  | ⟨.comment, _, _, tl, _⟩, _, _, hs, _ => resolveRun_cons_of rfl (resolveRun_writeText hs tl)
  | ⟨.name tag, attrib, text, tl, children⟩, h, scopes, hs, hd => by
    obtain ⟨⟨hn, ha, hnd⟩, hc⟩ := every_iff.1 h
    have hopen := openScope_of_plain (hn tag rfl) ha hnd hd
    rw [serialize]
    refine resolveRun_append_of ?_ (resolveRun_writeText hs tl)
    split
    · have hd' : NoDefault (⟨tag, []⟩ :: scopes) := by simpa [NoDefault, Scope.bound] using hd
      have hstart : resolveToken scopes (.startTag tag attrib) =
          some (⟨tag, []⟩ :: scopes, .startTag tag attrib) := by simp [resolveToken, hopen]
      refine resolveRun_cons_of hstart ?_
      simp only [List.append_eq, List.append_assoc]
      refine resolveRun_append_of (resolveRun_writeText (List.cons_ne_nil _ _) text) ?_
      refine resolveRun_append_of
        (resolveRun_serializeChildren children hc _ (List.cons_ne_nil _ _) hd') ?_
      exact resolveRun_cons_of (by simp [resolveToken, qualify_of_plain false (hn tag rfl) hd']) rfl
    · exact resolveRun_cons_of (by simp [resolveToken, hopen]) rfl

theorem resolveRun_serializeChildren : ∀ (cs : List Element), (∀ c ∈ cs, Every NsPlain c) →
    ∀ scopes : List Scope, scopes ≠ [] → NoDefault scopes →
      resolveRun scopes (serializeChildren cs) = some (scopes, serializeChildren cs)
  | [], _, _, _, _ => rfl
  | c :: cs, h, scopes, hs, hd =>
    resolveRun_append_of (resolveRun_serialize c (h c (List.mem_cons_self _ _)) scopes hs hd)
      (resolveRun_serializeChildren cs (fun c' hc' => h c' (List.mem_cons_of_mem _ hc')) scopes hs hd)
end

/-- Character data outside the root element, as `resolve` lets it through: blank. -/
def blankText (text : Option String) : Bool := text.all fun t => t.toList.all Char.isWhitespace

theorem resolveRun_writeText_blank {text : Option String} (h : blankText text) :
    resolveRun [] (writeText text) = some ([], writeText text) := by
  cases text with
  | none => rfl
  | some t =>
    simp only [blankText, Option.all_some] at h
    simp only [writeText]
    split
    · rfl
    · simp only [resolveRun, resolveToken, List.isEmpty_nil, Bool.true_and, h, Bool.not_true,
        Bool.false_eq_true, if_false, Option.bind_eq_bind, Option.some_bind]
      rfl

/-- The root element of a document: its start tag may declare namespaces, though not the
default one, and its name has no prefix; below it there are none, and its tail is blank. Its
events are reported as written but for the attributes of its start tag. -/
theorem resolveRun_root {tag : String} {attrib decls attrib' : List (String × String)}
    {text tl : Option String} {children : List Element} (hn : ':' ∉ tag.toList)
    (hopen : openScope [] tag attrib = some (⟨tag, decls⟩, tag, attrib'))
    (hd : decls.lookup "" = none) (hc : ∀ c ∈ children, Every NsPlain c) (ht : blankText tl) :
    resolveRun [] (serialize ⟨.name tag, attrib, text, tl, children⟩) =
      some ([], serialize ⟨.name tag, attrib', text, tl, children⟩) := by
  have hd' : NoDefault [⟨tag, decls⟩] := by simpa [NoDefault, Scope.bound] using hd
  simp only [serialize]
  refine resolveRun_append_of ?_ (resolveRun_writeText_blank ht)
  split
  · have hstart : resolveToken [] (.startTag tag attrib) =
        some ([⟨tag, decls⟩], .startTag tag attrib') := by simp [resolveToken, hopen]
    refine resolveRun_cons_of hstart ?_
    simp only [List.append_eq, List.append_assoc]
    refine resolveRun_append_of (resolveRun_writeText (List.cons_ne_nil _ _) text) ?_
    refine resolveRun_append_of
      (resolveRun_serializeChildren children hc _ (List.cons_ne_nil _ _) hd') ?_
    exact resolveRun_cons_of (by simp [resolveToken, qualify_of_plain false hn hd']) rfl
  · exact resolveRun_cons_of (by simp [resolveToken, hopen]) rfl

end SvdGen
