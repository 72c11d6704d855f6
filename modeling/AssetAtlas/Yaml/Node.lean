import AssetAtlas.Yaml.Token

/-!
YAML texts as trees. A tree keeps what was read of a text that stops making sense: where the reader
had to stop stands a cut, and everything in front of it is complete. What an alias stands for is put
in its place.
-/

namespace AssetAtlas.Yaml

inductive Node where
  | scalar (tag : Option (List Char)) (style : Style) (text : List Char)
  | sequence (tag : Option (List Char)) (items : List Node)
  | mapping (tag : Option (List Char)) (members : List (Node × Node))
  /-- An alias of a collection that it is part of. -/
  | endless
  /-- The text stops making sense here. -/
  | cut
deriving Inhabited

def Node.void : Node :=
  .scalar none .plain []

/-- The state of the reader: the tokens that are left, what the anchors stand for, and the handles of
tags. The anchor of a collection that is still open stands for nothing yet. -/
structure Source where
  tokens : List Token
  anchors : List (List Char × Option Node) := []
  handles : List (List Char × List Char) := []

namespace Source

def head? (s : Source) : Option Token :=
  s.tokens.head?

def drop (s : Source) : Source :=
  { s with tokens := s.tokens.drop 1 }

def define (s : Source) (name : Option (List Char)) (node : Option Node) : Source :=
  match name with
  | some name => { s with anchors := (name, node) :: s.anchors }
  | none => s

/-- Says what the anchor of a collection stands for that was open until here, unless the name was
used again inside of it. -/
def close (s : Source) (name : Option (List Char)) (node : Node) : Source :=
  match name.bind fun name => s.anchors.lookup name with
  | some none => s.define name (some node)
  | _ => s

end Source

/-- What is written in front of a node. -/
structure Attributes where
  anchor : Option (List Char) := none
  tag : Option (List Char) := none

/-- Whether there is something in front of a node, which then need not be written itself. -/
def Attributes.isSome (a : Attributes) : Bool :=
  a.anchor.isSome || a.tag.isSome

def standardHandles : List (List Char × List Char) :=
  [(['!'], ['!']), (['!', '!'], "tag:yaml.org,2002:".toList)]

/-- The whole text of a tag; its handle has to be known. -/
def Source.expand? (s : Source) (handle suffix : List Char) : Option (List Char) :=
  if handle.isEmpty then some suffix
  else ((s.handles ++ standardHandles).lookup handle).map (· ++ suffix)

/-- Reads an anchor and a tag in either order. Nothing if the handle of the tag is not known. -/
def attributes? (s : Source) : Option (Attributes × Source) :=
  match s.tokens with
  | .anchor name :: .tag handle suffix :: _ =>
    (s.expand? handle suffix).map fun tag => (⟨some name, some tag⟩, s.drop.drop)
  | .anchor name :: _ => some (⟨some name, none⟩, s.drop)
  | .tag handle suffix :: .anchor name :: _ =>
    (s.expand? handle suffix).map fun tag => (⟨some name, some tag⟩, s.drop.drop)
  | .tag handle suffix :: _ =>
    (s.expand? handle suffix).map fun tag => (⟨none, some tag⟩, s.drop)
  | _ => some ({}, s)

/-- A part of a tree, and the source behind it if the part is complete. -/
abbrev Partly (α : Type) := α × Option Source

def cutItems (done : List Node) : Partly (List Node) :=
  ((.cut :: done).reverse, none)

def cutMembers (done : List (Node × Node)) : Partly (List (Node × Node)) :=
  (((.cut, .cut) :: done).reverse, none)

/-- Whether a token cannot begin a node inside a block collection. -/
def endsBlockNode : Token → Bool
  | .key | .value | .blockEnd => true
  | _ => false

/-- Whether a token cannot begin a node inside brackets, given the bracket that closes them. -/
def endsBracketNode (closing : Token) (t : Token) : Bool :=
  t = .comma || t = closing

/-- The tag of a scalar; the mark that stands for no tag in particular is none. -/
def scalarTag (tag : Option (List Char)) : Option (List Char) :=
  if tag = some ['!'] then none else tag

def asSequence (a : Attributes) (items : Partly (List Node)) : Partly Node :=
  let node := Node.sequence a.tag items.1
  (node, items.2.map (·.close a.anchor node))

def asMapping (a : Attributes) (members : Partly (List (Node × Node))) : Partly Node :=
  let node := Node.mapping a.tag members.1
  (node, members.2.map (·.close a.anchor node))

mutual

/-- Reads a node. In brackets a collection cannot be written by indentation; the items of a sequence
that is the value of a key need not be indented. Each call takes a token or is the last on its way,
so that `fuel` only has to grow with the tokens. -/
def node (fuel : Nat) (inBlock unindented : Bool) (s : Source) : Partly Node :=
  match fuel with
  | 0 => (.cut, none)
  | fuel + 1 =>
    match s.head? with
    | some (.alias name) =>
      match s.anchors.lookup name with
      | some (some target) => (target, some s.drop)
      | some none => (.endless, some s.drop)
      | none => (.cut, none)
    | _ =>
      match attributes? s with
      | none => (.cut, none)
      | some (a, s) =>
        let opened := s.define a.anchor none
        match s.head? with
        | some (.scalar style text) =>
          let node := Node.scalar (scalarTag a.tag) style text
          (node, some (s.drop.define a.anchor (some node)))
        | some .openSequence => asSequence a (bracketItems fuel true [] opened.drop)
        | some .openMapping => asMapping a (bracketMembers fuel true [] opened.drop)
        | some t =>
          if unindented && t = .entry then asSequence a (plainItems fuel [] opened)
          else if inBlock && t = .sequenceStart then asSequence a (blockItems fuel [] opened.drop)
          else if inBlock && t = .mappingStart then asMapping a (blockMembers fuel [] opened.drop)
          else if a.isSome then
            let node := Node.scalar a.tag .plain []
            (node, some (s.define a.anchor (some node)))
          else (.cut, none)
        | none => (.cut, none)

def blockItems (fuel : Nat) (done : List Node) (s : Source) : Partly (List Node) :=
  match fuel with
  | 0 => cutItems done
  | fuel + 1 =>
    match s.head? with
    | some .blockEnd => (done.reverse, some s.drop)
    | some .entry =>
      let s := s.drop
      match s.head? with
      | none => cutItems done
      | some t =>
        if t = .entry || t = .blockEnd then blockItems fuel (.void :: done) s
        else match node fuel true false s with
          | (item, some s) => blockItems fuel (item :: done) s
          | (item, none) => ((item :: done).reverse, none)
    | _ => cutItems done

/-- Reads the items of a sequence that is not indented. It ends where no item follows. -/
def plainItems (fuel : Nat) (done : List Node) (s : Source) : Partly (List Node) :=
  match fuel with
  | 0 => cutItems done
  | fuel + 1 =>
    match s.head? with
    | none => cutItems done
    | some .entry =>
      let s := s.drop
      match s.head? with
      | none => cutItems done
      | some t =>
        if t = .entry || endsBlockNode t then plainItems fuel (.void :: done) s
        else match node fuel true false s with
          | (item, some s) => plainItems fuel (item :: done) s
          | (item, none) => ((item :: done).reverse, none)
    | some _ => (done.reverse, some s)

def blockMembers (fuel : Nat) (done : List (Node × Node)) (s : Source) :
    Partly (List (Node × Node)) :=
  match fuel with
  | 0 => cutMembers done
  | fuel + 1 =>
    match s.head? with
    | some .blockEnd => (done.reverse, some s.drop)
    | some .key =>
      match blockNode fuel s.drop with
      | (key, none) => (((key, .cut) :: done).reverse, none)
      | (key, some s) =>
        match s.head? with
        | none => (((key, .cut) :: done).reverse, none)
        | some .value =>
          match blockNode fuel s.drop with
          | (value, none) => (((key, value) :: done).reverse, none)
          | (value, some s) => blockMembers fuel ((key, value) :: done) s
        | some _ => blockMembers fuel ((key, .void) :: done) s
    | _ => cutMembers done

/-- Reads a key or a value of a block mapping, which may be written as nothing. -/
def blockNode (fuel : Nat) (s : Source) : Partly Node :=
  match fuel with
  | 0 => (.cut, none)
  | fuel + 1 =>
    match s.head? with
    | none => (.cut, none)
    | some t => if endsBlockNode t then (.void, some s) else node fuel true true s

/-- Reads the items of a sequence in brackets. An item may be a key with a value, which is a mapping
of its own. -/
def bracketItems (fuel : Nat) (isFirst : Bool) (done : List Node) (s : Source) :
    Partly (List Node) :=
  match fuel with
  | 0 => cutItems done
  | fuel + 1 =>
    if s.head? = some .closeSequence then (done.reverse, some s.drop)
    else if !isFirst && s.head? ≠ some .comma then cutItems done
    else
      let s := if isFirst then s else s.drop
      match s.head? with
      | none => cutItems done
      | some .closeSequence => (done.reverse, some s.drop)
      | some .key =>
        match singleMember fuel s.drop with
        | (item, some s) => bracketItems fuel false (item :: done) s
        | (item, none) => ((item :: done).reverse, none)
      | some _ =>
        match node fuel false false s with
        | (item, some s) => bracketItems fuel false (item :: done) s
        | (item, none) => ((item :: done).reverse, none)

/-- Reads a key and a value that stand as an item of a sequence. A key that is not written takes the
token in whose place it would stand. -/
def singleMember (fuel : Nat) (s : Source) : Partly Node :=
  match fuel with
  | 0 => (.cut, none)
  | fuel + 1 =>
    let (key, s) : Partly Node := match s.head? with
      | none => (.cut, none)
      | some t =>
        if t = .value || endsBracketNode .closeSequence t then (.void, some s.drop)
        else node fuel false false s
    match s with
    | none => (.mapping none [(key, .cut)], none)
    | some s =>
      let (value, s) := bracketValue fuel .closeSequence s
      (.mapping none [(key, value)], s)

/-- Reads the value of a key in brackets, which may be missing. -/
def bracketValue (fuel : Nat) (closing : Token) (s : Source) : Partly Node :=
  match fuel with
  | 0 => (.cut, none)
  | fuel + 1 =>
    match s.head? with
    | none => (.cut, none)
    | some .value =>
      let s := s.drop
      match s.head? with
      | none => (.cut, none)
      | some t => if endsBracketNode closing t then (.void, some s) else node fuel false false s
    | some _ => (.void, some s)

/-- Reads the members of a mapping in brackets. A member may be a key alone. -/
def bracketMembers (fuel : Nat) (isFirst : Bool) (done : List (Node × Node)) (s : Source) :
    Partly (List (Node × Node)) :=
  match fuel with
  | 0 => cutMembers done
  | fuel + 1 =>
    if s.head? = some .closeMapping then (done.reverse, some s.drop)
    else if !isFirst && s.head? ≠ some .comma then cutMembers done
    else
      let s := if isFirst then s else s.drop
      match s.head? with
      | none => cutMembers done
      | some .closeMapping => (done.reverse, some s.drop)
      | some .key =>
        let s := s.drop
        let (key, s) : Partly Node := match s.head? with
          | none => (.cut, none)
          | some t =>
            if t = .value || endsBracketNode .closeMapping t then (.void, some s)
            else node fuel false false s
        match s with
        | none => (((key, .cut) :: done).reverse, none)
        | some s =>
          match bracketValue fuel .closeMapping s with
          | (value, none) => (((key, value) :: done).reverse, none)
          | (value, some s) => bracketMembers fuel false ((key, value) :: done) s
      | some _ =>
        match node fuel false false s with
        | (key, some s) => bracketMembers fuel false ((key, .void) :: done) s
        | (key, none) => (((key, .cut) :: done).reverse, none)

end

/-! ## Documents -/

/-- A text as a document: its tree, and whether nothing follows it that is not its own. -/
structure Document where
  root : Node
  isAlone : Bool

def Token.isDocumentBorder : Token → Bool
  | .version _ _ | .handle _ _ | .documentStart | .documentEnd | .streamEnd => true
  | _ => false

/-- Reads the directives in front of a document. None may be given twice, and only the versions 1.1
and 1.2 are known. -/
def directives? (versioned : Bool) (handles : List (List Char × List Char)) :
    List Token → Option Source
  | .version major minor :: rest =>
    if versioned || major ≠ 1 || (minor ≠ 1 && minor ≠ 2) then none
    else directives? true handles rest
  | .handle name expansion :: rest =>
    if (handles.lookup name).isSome then none
    else directives? versioned ((name, expansion) :: handles) rest
  | tokens => some { tokens, handles }

/-- Whether the end of the text follows, after any number of marks that end documents. -/
def isEnd : List Token → Bool
  | .documentEnd :: rest => isEnd rest
  | [.streamEnd] => true
  | _ => false

def asDocument : Partly Node → Document
  | (root, some s) => ⟨root, isEnd s.tokens⟩
  | (root, none) => ⟨root, false⟩

def Document.ofTokens (ts : List Token) : Document :=
  let fuel := 3 * ts.length + 3
  let content (s : Source) : Partly Node := match s.head? with
    | some t => if t.isDocumentBorder then (.void, some s) else node fuel true false s
    | none => (.cut, none)
  asDocument <| match ts with
    | .streamEnd :: _ => (.void, some { tokens := ts })
    | .version _ _ :: _ | .handle _ _ :: _ | .documentStart :: _ =>
      match directives? false [] ts with
      | some s => if s.head? = some .documentStart then content s.drop else (.cut, none)
      | none => (.cut, none)
    | _ => node fuel true false { tokens := ts }

def Document.ofText (s : String) : Document :=
  .ofTokens (tokens s)

end AssetAtlas.Yaml
