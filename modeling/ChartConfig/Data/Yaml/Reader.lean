import ChartConfig.Data.Yaml.Token

/-!
# YAML

Reading of a text with one YAML document: its tokens are put together to lists, records and leaves. A node may
have an anchor, by which later nodes refer to it, and a tag, which says what a scalar is to be read as.

The readers take a bound on the number of steps; a few for each token suffice.
-/

namespace ChartConfig.Yaml

/-- What is left to read, and the nodes that have an anchor, the latest first. -/
structure Supply where
  tokens : List Token
  anchors : List (String × Data) := []
  deriving Inhabited

namespace Supply

def startsWith (s : Supply) (ts : List Token) : Bool :=
  match s.tokens with
  | t :: _ => ts.contains t
  | [] => false

def next (s : Supply) : Supply :=
  { s with tokens := s.tokens.drop 1 }

end Supply

structure Properties where
  anchor : Option String := none
  tag : Option Tag := none
  /-- Whether there is a tag at all; one that says nothing counts. -/
  tagged : Bool := false
  deriving Repr

/-- The tag with a handle and a suffix; the inner `none` is for one that says nothing. -/
def resolveTag? (handle suffix : String) : Option (Option Tag) :=
  if handle == "!!" || (handle == "" && suffix.startsWith "tag:yaml.org,2002:") then
    let name := if handle == "!!" then suffix else String.ofList (suffix.toList.drop 18)
    some (some (match name with
      | "null" => .null
      | "bool" => .flag
      | "int" => .integer
      | "float" => .double
      | _ => .core))
  else if handle == "!" then some (some .own)
  else if handle == "" then
    if suffix == "!" then some none
    else some (some (if suffix.startsWith "!" then .own else .core))
  else none

def properties? (s : Supply) : Option (Properties × Supply) :=
  match s.tokens with
  | .anchor name :: .tag handle suffix :: rest =>
    (resolveTag? handle suffix).map fun tag => (⟨name, tag, true⟩, { s with tokens := rest })
  | .tag handle suffix :: .anchor name :: rest =>
    (resolveTag? handle suffix).map fun tag => (⟨name, tag, true⟩, { s with tokens := rest })
  | .anchor name :: rest => some ({ anchor := name }, { s with tokens := rest })
  | .tag handle suffix :: rest =>
    (resolveTag? handle suffix).map fun tag =>
      ({ tag, tagged := true }, { s with tokens := rest })
  | _ => some ({}, s)

def void : Data :=
  .leaf (leafOf none .plain "")

def Properties.keep (props : Properties) (d : Data) (s : Supply) : Data × Supply :=
  match props.anchor with
  | some name => (d, { s with anchors := (name, d) :: s.anchors })
  | none => (d, s)

def Properties.scalar (props : Properties) (style : Style) (text : String) : Data :=
  .leaf (leafOf props.tag style text)

mutual

/-- A node; a block collection and a list whose dashes are not indented stand only where that is allowed. -/
def node? : (bound : Nat) → (block flush : Bool) → Supply → Option (Data × Supply)
  | 0, _, _, _ => none
  | bound + 1, block, flush, s =>
    match s.tokens with
    | .reference name :: _ => (s.anchors.lookup name).map fun d => (d, s.next)
    | _ =>
      match properties? s with
      | none => none
      | some (props, s) => (content? bound block flush props s).map fun (d, s) => props.keep d s

/-- The content of a node after its properties, without which there has to be some. -/
def content? : (bound : Nat) → (block flush : Bool) → Properties → Supply → Option (Data × Supply)
  | 0, _, _, _, _ => none
  | bound + 1, block, flush, props, s =>
    match s.tokens with
    | .scalar style text :: _ => some (props.scalar style text, s.next)
    | .flowListStart :: _ => (flowItems? bound true s.next).map fun (items, s) => (.list items, s)
    | .flowRecordStart :: _ =>
      (flowEntries? bound true s.next).map fun (entries, s) => (.record entries, s)
    | .listStart :: _ =>
      if block then (blockItems? bound s.next).map fun (items, s) => (.list items, s) else none
    | .recordStart :: _ =>
      if block then (blockEntries? bound s.next).map fun (entries, s) => (.record entries, s)
      else none
    | _ =>
      if flush && s.startsWith [.entry] then
        (flushItems? bound s).map fun (items, s) => (.list items, s)
      else if props.tagged || props.anchor.isSome then some (props.scalar .plain "", s)
      else none

def nodeUnless? : (bound : Nat) → (block flush : Bool) → List Token → Supply → Option (Data × Supply)
  | 0, _, _, _, _ => none
  | bound + 1, block, flush, stops, s =>
    if s.startsWith stops then some (void, s) else node? bound block flush s

def value? : (bound : Nat) → (block : Bool) → List Token → Supply → Option (Data × Supply)
  | 0, _, _, _ => none
  | bound + 1, block, stops, s =>
    if s.startsWith [.value] then nodeUnless? bound block block stops s.next else some (void, s)

def blockItems? : (bound : Nat) → Supply → Option (List Data × Supply)
  | 0, _ => none
  | bound + 1, s =>
    match s.tokens with
    | .entry :: _ =>
      match nodeUnless? bound true false [.entry, .blockEnd] s.next with
      | none => none
      | some (item, s) => (blockItems? bound s).map fun (items, s) => (item :: items, s)
    | .blockEnd :: _ => some ([], s.next)
    | _ => none

/-- The items of a list whose dashes stand in the column of the key before. -/
def flushItems? : (bound : Nat) → Supply → Option (List Data × Supply)
  | 0, _ => none
  | bound + 1, s =>
    match s.tokens with
    | .entry :: _ =>
      match nodeUnless? bound true false [.entry, .key, .value, .blockEnd] s.next with
      | none => none
      | some (item, s) => (flushItems? bound s).map fun (items, s) => (item :: items, s)
    | _ => some ([], s)

def blockEntries? : (bound : Nat) → Supply → Option (List (Option String × Data) × Supply)
  | 0, _ => none
  | bound + 1, s =>
    match s.tokens with
    | .key :: _ =>
      match nodeUnless? bound true true [.key, .value, .blockEnd] s.next with
      | none => none
      | some (key, s) =>
        match value? bound true [.key, .value, .blockEnd] s with
        | none => none
        | some (value, s) =>
          (blockEntries? bound s).map fun (entries, s) => ((key.text?, value) :: entries, s)
    | .blockEnd :: _ => some ([], s.next)
    | _ => none

/-- The items of a flow list; all but the first come after a comma, and a comma may come last. An item with a
    colon is a record of one entry. -/
def flowItems? : (bound : Nat) → (first : Bool) → Supply → Option (List Data × Supply)
  | 0, _, _ => none
  | bound + 1, first, s =>
    if s.startsWith [.flowListEnd] then some ([], s.next)
    else if !first && !s.startsWith [.comma] then none
    else
      let s := if first then s else s.next
      if s.startsWith [.flowListEnd] then some ([], s.next)
      else
        let item := if s.startsWith [.key] then pair? bound s.next else node? bound false false s
        match item with
        | none => none
        | some (item, s) => (flowItems? bound false s).map fun (items, s) => (item :: items, s)

/-- The entry of a flow list that is a record. A key without content takes the token after it with it. -/
def pair? : (bound : Nat) → Supply → Option (Data × Supply)
  | 0, _ => none
  | bound + 1, s =>
    let key :=
      if s.startsWith [.value, .comma, .flowListEnd] then some (void, s.next)
      else node? bound false false s
    match key with
    | none => none
    | some (key, s) =>
      (value? bound false [.comma, .flowListEnd] s).map fun (value, s) =>
        (.record [(key.text?, value)], s)

def flowEntries? : (bound : Nat) → (first : Bool) → Supply →
    Option (List (Option String × Data) × Supply)
  | 0, _, _ => none
  | bound + 1, first, s =>
    if s.startsWith [.flowRecordEnd] then some ([], s.next)
    else if !first && !s.startsWith [.comma] then none
    else
      let s := if first then s else s.next
      if s.startsWith [.flowRecordEnd] then some ([], s.next)
      else
        match flowEntry? bound s with
        | none => none
        | some (entry, s) =>
          (flowEntries? bound false s).map fun (entries, s) => (entry :: entries, s)

def flowEntry? : (bound : Nat) → Supply → Option ((Option String × Data) × Supply)
  | 0, _ => none
  | bound + 1, s =>
    if s.startsWith [.key] then
      match nodeUnless? bound false false [.value, .comma, .flowRecordEnd] s.next with
      | none => none
      | some (key, s) =>
        (value? bound false [.comma, .flowRecordEnd] s).map fun (value, s) => ((key.text?, value), s)
    else (node? bound false false s).map fun (key, s) => ((key.text?, void), s)

end

/-- The start of a document with its directives, of which there is at most one; without a start there must be
    none. Returns what follows, and whether there was a start. -/
def documentStart? : List Token → Option (Bool × List Token)
  | .version major minor :: .documentStart :: rest =>
    if major = 1 && (minor = 1 || minor = 2) then some (true, rest) else none
  | .version _ _ :: _ => none
  | .documentStart :: rest => some (true, rest)
  | rest => some (false, rest)

/-- The one document of a sequence of tokens; a sequence without any stands for an empty document. -/
def document? (ts : List Token) : Option Data :=
  if ts.isEmpty then some void
  else do
    let (started, rest) ← documentStart? ts
    let isMark (t : Token) : Bool := match t with
      | .version _ _ | .documentStart | .documentEnd => true
      | _ => false
    let s : Supply := { tokens := rest }
    let (value, s) ←
      if started && (rest.head?.map isMark).getD true then some (void, s)
      else node? (6 * ts.length + 6) true false s
    if s.tokens.all (· == .documentEnd) then return value else none

def parse? (text : String) : Option Data := do
  let cs := text.toList
  if !cs.all isAllowed then none
  else
    let ts ← tokens? (normalizeBreaks cs)
    document? ts

end ChartConfig.Yaml
