import ChartConfig.Proofs.Language.Pieces
import ChartConfig.Proofs.Validation.Location

/-!
# Remarks

All that a run can say about a document is listed in `Remark`: a remark is made on a piece of a line, and its
wording depends on nothing but the remark and the text of that piece. A finding is told of a document if it is a
note or a remark on a piece of one of its lines; a demand is a remark on the name of a header that is read. What a
state keeps for later reports is sourced: it was found on pieces of the document as well.
-/

namespace ChartConfig

open Text

/-! ## What can be said -/

/-- How blocks can be out of order. -/
inductive Disorder where
  | closedEarly (opener inner : Keyword)
  | noOpener (found opener : Keyword)
  | startedEarly (found inner : Keyword)
  | noTerminator (opener : Keyword)
  deriving Repr, DecidableEq

def Disorder.message : Disorder → String
  | closedEarly opener inner => Blocks.closedEarly opener inner
  | noOpener found opener => Blocks.noOpener found opener
  | startedEarly found inner => Blocks.startedEarly found inner
  | noTerminator opener => Blocks.noTerminator opener

/-- What a run can say about a piece of a line. -/
inductive Remark (measure : Measure) where
  | unknown (candidates : List String)
  | alreadyDefined
  | required (name : String)
  | conflict (setting other : Setting)
  | fault (setting : Setting) (fault : Fault)
  | columnCount (expected found : Nat)
  | tagIsSetting
  | tagWithBlanks
  | settingWithBlanks
  | deprecatedTagSection
  | deprecatedTemplate
  | repeatedScript
  | repeatedThresholds
  | repeatedColors
  | unclosedHeader
  | emptyLoop
  | scriptNeedsBreak
  | disorder (kind : Disorder)

namespace Remark

variable {measure : Measure}

def severity : Remark measure → Severity
  | fault _ f => f.severity
  | tagIsSetting | deprecatedTemplate => .information
  | tagWithBlanks | settingWithBlanks | deprecatedTagSection => .warning
  | repeatedScript | repeatedThresholds | repeatedColors => .warning
  | _ => .error

def message (word : String) : Remark measure → String
  | unknown candidates => Message.unknownAmong word candidates measure
  | alreadyDefined => Message.alreadyDefined word
  | required name => Message.required name
  | conflict setting other => Message.conflict setting.displayName other.displayName
  | fault setting f => f.message setting word
  | columnCount expected found => Message.columnCount expected found
  | tagIsSetting => Message.tagIsSetting word
  | tagWithBlanks => Message.tagWithBlanks word
  | settingWithBlanks => Message.settingWithBlanks word
  | deprecatedTagSection => Message.deprecatedTagSection
  | deprecatedTemplate => Message.deprecatedTemplate
  | repeatedScript => Message.repeatedScript
  | repeatedThresholds => Message.repeatedThresholds
  | repeatedColors => Message.repeatedColors
  | unclosedHeader => Message.unclosedHeader
  | emptyLoop => Message.emptyLoop
  | scriptNeedsBreak => Message.scriptNeedsBreak
  | disorder kind => kind.message

def isDemand : Remark measure → Bool
  | required _ => true
  | _ => false

def isDisorder : Remark measure → Bool
  | disorder _ => true
  | _ => false

def on (remark : Remark measure) (number : Nat) (p : Piece) : Diagnostic :=
  ⟨p.range number, remark.severity, remark.message p.word⟩

end Remark

/-! ## Wordings -/

def Disorder.all : List Disorder :=
  Keyword.all.flatMap fun k => .noTerminator k ::
    Keyword.all.flatMap fun other => [.closedEarly k other, .noOpener k other, .startedEarly k other]

theorem Disorder.mem_all (kind : Disorder) : kind ∈ all := by
  cases kind <;> simp [all, Keyword.mem_all]

/-- The wording is one that complains about the order of blocks. -/
def Diagnostic.isStructural (d : Diagnostic) : Bool :=
  Disorder.all.any fun kind => d.message == kind.message

theorem Diagnostic.isStructural_iff {d : Diagnostic} :
    d.isStructural = true ↔ ∃ kind : Disorder, d.message = kind.message := by
  simp [isStructural, Disorder.mem_all]

/-- The letters that complaints are written with. -/
def Disorder.letters : List Char :=
  "abcdefghilmnoprstv ".toList

theorem Disorder.subset_letters (kind : Disorder) : kind.message.toList ⊆ letters := by
  have name (k : Keyword) : k.name.toList ⊆ letters := by
    have all : k.name.toList.all (letters.contains ·) = true := by cases k <;> decide
    exact fun c member => by simpa using List.all_eq_true.mp all c member
  have words (w : String) (inLetters : w.toList.all (letters.contains ·) = true) : w.toList ⊆ letters :=
    fun c member => by simpa using List.all_eq_true.mp inLetters c member
  cases kind with
  | closedEarly opener inner =>
    simp only [message, Blocks.closedEarly, String.toList_append, List.append_subset]
    exact ⟨⟨name _, words _ (by decide +kernel)⟩, name _⟩
  | noOpener found opener =>
    simp only [message, Blocks.noOpener, String.toList_append, List.append_subset]
    exact ⟨⟨name _, words _ (by decide +kernel)⟩, name _⟩
  | startedEarly found inner =>
    simp only [message, Blocks.startedEarly, String.toList_append, List.append_subset]
    exact ⟨⟨⟨name _, words _ (by decide +kernel)⟩, name _⟩, words _ (by decide +kernel)⟩
  | noTerminator opener =>
    simp only [message, Blocks.noTerminator, String.toList_append, List.append_subset]
    exact ⟨⟨name _, words _ (by decide +kernel)⟩, name _⟩

theorem mem_opening {c : Char} {opening after : String} (inOpening : c ∈ opening.toList) :
    c ∈ (opening ++ after).toList := by
  simp [String.toList_append, inOpening]

theorem mem_wording {c : Char} {before part after : String} (inPart : c ∈ part.toList) :
    c ∈ (before ++ part ++ after).toList := by
  simp [String.toList_append, inPart]

theorem mem_ending {c : Char} {before ending : String} (inEnding : c ∈ ending.toList) :
    c ∈ (before ++ ending).toList := by
  simp [String.toList_append, inEnding]

theorem Fault.exists_mark (fault : Fault) (setting : Setting) (word : String) :
    ∃ c ∈ (fault.message setting word).toList, c ∉ Disorder.letters := by
  cases fault with
  | empty => exact ⟨'y', mem_ending (by decide +kernel), by decide +kernel⟩
  | bareSeconds => exact ⟨'S', mem_opening (by decide +kernel), by decide +kernel⟩
  | _ => exact ⟨'u', mem_wording (by decide +kernel), by decide +kernel⟩

theorem Remark.exists_mark {measure : Measure} {remark : Remark measure} (plain : remark.isDisorder = false) (word : String) :
    ∃ c ∈ (remark.message word).toList, c ∉ Disorder.letters := by
  cases remark with
  | unknown candidates =>
    simp only [message, Message.unknownAmong]
    split
    · exact ⟨'?', mem_ending (by decide +kernel), by decide +kernel⟩
    · exact ⟨'k', mem_ending (by decide +kernel), by decide +kernel⟩
  | alreadyDefined => exact ⟨'y', mem_ending (by decide +kernel), by decide +kernel⟩
  | required name => exact ⟨'q', mem_ending (by decide +kernel), by decide +kernel⟩
  | conflict setting other => exact ⟨'u', mem_wording (by decide +kernel), by decide +kernel⟩
  | fault setting fault => exact fault.exists_mark setting word
  | columnCount expected found => exact ⟨'u', mem_wording (by decide +kernel), by decide +kernel⟩
  | tagIsSetting => exact ⟨'[', mem_ending (by decide +kernel), by decide +kernel⟩
  | tagWithBlanks => exact ⟨'u', mem_ending (by decide +kernel), by decide +kernel⟩
  | settingWithBlanks => exact ⟨'.', mem_ending (by decide +kernel), by decide +kernel⟩
  | deprecatedTagSection => exact ⟨'R', mem_opening (mem_opening (mem_opening (by decide +kernel))), by decide +kernel⟩
  | deprecatedTemplate => exact ⟨'F', (by decide +kernel : 'F' ∈ Message.deprecatedTemplate.toList), by decide +kernel⟩
  | repeatedScript => exact ⟨'M', (by decide +kernel : 'M' ∈ Message.repeatedScript.toList), by decide +kernel⟩
  | repeatedThresholds => exact ⟨'R', mem_opening (by decide +kernel), by decide +kernel⟩
  | repeatedColors => exact ⟨'R', mem_opening (by decide +kernel), by decide +kernel⟩
  | unclosedHeader => exact ⟨'S', (by decide +kernel : 'S' ∈ Message.unclosedHeader.toList), by decide +kernel⟩
  | emptyLoop => exact ⟨'E', (by decide +kernel : 'E' ∈ Message.emptyLoop.toList), by decide +kernel⟩
  | scriptNeedsBreak => exact ⟨'A', (by decide +kernel : 'A' ∈ Message.scriptNeedsBreak.toList), by decide +kernel⟩
  | disorder kind => cases plain

theorem Remark.not_isStructural {measure : Measure} {remark : Remark measure} (plain : remark.isDisorder = false)
    (number : Nat) (p : Piece) : (remark.on number p).isStructural = false := by
  rw [Bool.eq_false_iff]
  intro structural
  obtain ⟨kind, same⟩ := Diagnostic.isStructural_iff.mp structural
  obtain ⟨c, inMessage, mark⟩ := remark.exists_mark plain p.word
  have inComplaint : c ∈ kind.message.toList := by
    rw [← same]
    exact inMessage
  exact mark (kind.subset_letters inComplaint)

/-! ## What it is said about -/

namespace Document

variable {text : String} {number : Nat} {line : List Char}

def Holds (text : String) (number : Nat) (p : Piece) : Prop :=
  ∃ line, (analysed text)[number]? = some line ∧ p.In line

def Heads (text : String) (h : Header) : Prop :=
  ∃ x ∈ readings text, Line.header? x.line x.number = some h

def Mentions (text : String) (m : Mention) : Prop :=
  ∃ number p, Holds text number p ∧ m = ⟨p.word, p.range number⟩

def Opens (text : String) (b : KeywordAt) : Prop :=
  ∃ number line, (analysed text)[number]? = some line ∧ Line.keywordAt? line number = some b

theorem getElem?_of_mem_readings {c : Control} {lines : List (List Char)} {x : Reading}
    (member : x ∈ c.readings number lines) : lines[x.number - number]? = some x.line := by
  induction lines generalizing c number with
  | nil => cases member
  | cons line following inductionHypothesis =>
    have later (member : x ∈ (c.next number line following).readings (number + 1) following) :
        (line :: following)[x.number - number]? = some x.line := by
      have bound := Control.le_number_of_mem_readings member
      have step : x.number - number = x.number - (number + 1) + 1 := by omega
      rw [step, List.getElem?_cons_succ]
      exact inductionHypothesis member
    simp only [Control.readings] at member
    split at member
    · cases member with
      | head => simp
      | tail _ member => exact later member
    · exact later member

theorem Heads.holds {h : Header} (heads : Heads text h) :
    ∃ number p, Holds text number p ∧ h = ⟨p.word, p.range number⟩ := by
  obtain ⟨x, member, isHeader⟩ := heads
  obtain ⟨p, named, rfl⟩ := Option.map_eq_some_iff.mp isHeader
  have isLine : (analysed text)[x.number]? = some x.line := getElem?_of_mem_readings member
  exact ⟨x.number, p, ⟨x.line, isLine, Line.in_of_headerName? named⟩, rfl⟩

theorem Opens.holds {b : KeywordAt} (opens : Opens text b) :
    ∃ number p, Holds text number p ∧ b.range = p.range number := by
  obtain ⟨number, line, isLine, isKeyword⟩ := opens
  obtain ⟨word, inLine, place, -⟩ := Line.in_of_keywordAt? isKeyword
  exact ⟨number, word, ⟨line, isLine, inLine⟩, place⟩

end Document

open Document

/-! ## Findings that are told -/

/-- The finding is a note, or a remark of the allowed kind on a piece of the document. -/
def Finding.Told {measure : Measure} (text : String) (allowed : Remark measure → Prop) : Finding → Prop
  | .note _ => True
  | .problem d => ∃ number p remark, Holds text number p ∧ allowed remark ∧
      (remark.isDemand = true → Heads text ⟨p.word, p.range number⟩) ∧ d = remark.on number p

abbrev Finding.Plain (measure : Measure) (text : String) : Finding → Prop :=
  Told text fun remark : Remark measure => remark.isDisorder = false

def Finding.AllPlain (measure : Measure) (text : String) (found : List Finding) : Prop :=
  ∀ f ∈ found, f.Plain measure text

namespace Finding

variable {measure : Measure} {text : String} {allowed wider : Remark measure → Prop} {number : Nat} {p : Piece} {found more : List Finding}

theorem Told.mono {f : Finding} (told : f.Told text allowed) (implied : ∀ remark, allowed remark → wider remark) :
    f.Told text wider := by
  cases f with
  | note n => trivial
  | problem d =>
    obtain ⟨number, p, remark, holds, isAllowed, demand, same⟩ := told
    exact ⟨number, p, remark, holds, implied remark isAllowed, demand, same⟩

theorem told_on {remark : Remark measure} (holds : Holds text number p) (isAllowed : allowed remark)
    (noDemand : remark.isDemand = false) : (problem (remark.on number p)).Told text allowed :=
  ⟨number, p, remark, holds, isAllowed, by simp [noDemand], rfl⟩

@[simp] theorem allPlain_nil : AllPlain measure text [] := by
  simp [AllPlain]

@[simp] theorem allPlain_note {n : Note} : AllPlain measure text (.note n :: found) ↔ AllPlain measure text found := by
  simp [AllPlain, Told]

@[simp] theorem allPlain_append : AllPlain measure text (found ++ more) ↔ AllPlain measure text found ∧ AllPlain measure text more := by
  simp only [AllPlain, List.mem_append]
  exact ⟨fun h => ⟨fun f m => h f (.inl m), fun f m => h f (.inr m)⟩, fun h f m => m.elim (h.1 f) (h.2 f)⟩

theorem allPlain_on {remark : Remark measure} (holds : Holds text number p) (noDemand : remark.isDemand = false)
    (noDisorder : remark.isDisorder = false) : AllPlain measure text [.problem (remark.on number p)] := by
  intro f member
  rw [List.mem_singleton.mp member]
  exact told_on holds noDisorder noDemand

theorem AllPlain.structural (plain : AllPlain measure text found) : (diagnostics found).filter (·.isStructural) = [] := by
  rw [List.filter_eq_nil_iff]
  intro d member
  obtain ⟨f, inFound, isProblem⟩ := List.mem_filterMap.mp member
  have told := plain f inFound
  cases f with
  | note n => cases isProblem
  | problem e =>
    cases isProblem
    obtain ⟨number, p, remark, -, noDisorder, -, rfl⟩ := told
    simp [Remark.not_isStructural noDisorder]

/-- All that is said is told, and what it says about the order of blocks are the given complaints. -/
structure Reports (measure : Measure) (text : String) (complaints said : List Finding) : Prop where
  told : ∀ f ∈ said, f.Told text fun _ : Remark measure => True
  structural : (diagnostics said).filter (·.isStructural) = diagnostics complaints

variable {complaints others said : List Finding}

theorem Reports.append (first : Reports measure text complaints said) (second : Reports measure text others more) :
    Reports measure text (complaints ++ others) (said ++ more) where
  told := fun f member => (List.mem_append.mp member).elim (first.told f) (second.told f)
  structural := by simp [first.structural, second.structural]

theorem AllPlain.reports (plain : AllPlain measure text said) : Reports measure text [] said where
  told := fun f member => (plain f member).mono fun _ _ => trivial
  structural := plain.structural

theorem reports_self
    (complaining : ∀ f ∈ complaints, ∃ b kind, Opens text b ∧ f = .error b.range (Disorder.message kind)) :
    Reports measure text complaints complaints where
  told := by
    intro f member
    obtain ⟨b, kind, opens, rfl⟩ := complaining f member
    obtain ⟨number, p, holds, place⟩ := opens.holds
    rw [place]
    exact @told_on measure text _ number p (.disorder kind) holds trivial rfl
  structural := by
    rw [List.filter_eq_self]
    intro d member
    obtain ⟨f, inComplaints, isProblem⟩ := List.mem_filterMap.mp member
    obtain ⟨b, kind, -, rfl⟩ := complaining f inComplaints
    cases isProblem
    exact Diagnostic.isStructural_iff.mpr ⟨kind, rfl⟩

end Finding

open Finding

/-! ## What a state keeps -/

/-- What the state keeps for later reports comes from the document. -/
structure State.Sourced (text : String) (s : State) : Prop where
  current : ∀ h, s.scope.current = some h → Heads text h
  previous : ∀ h, s.scope.previous = some h → Heads text h
  uses : ∀ m ∈ s.aliases.uses, Mentions text m
  pending : ∀ m ∈ s.names.pending, Mentions text m
  blocks : ∀ b ∈ s.blocks, Opens text b

namespace Step

/-- Wherever the step succeeds from a sourced state, it leads to a sourced one, and all that it finds is as asked. -/
def Keeps (text : String) (ok : Finding → Prop) (step : Step) : Prop :=
  ∀ s after found, s.Sourced text → step s = .ok (after, found) → after.Sourced text ∧ ∀ f ∈ found, ok f

variable {text : String} {ok : Finding → Prop} {first second step : Step} {steps : List Step}

theorem keeps_skip : skip.Keeps text ok := by
  intro s after found sourced ran
  cases ran
  exact ⟨sourced, by simp⟩

theorem keeps_update {f : State → State} (keeps : ∀ s, s.Sourced text → (f s).Sourced text) :
    (update f).Keeps text ok := by
  intro s after found sourced ran
  cases ran
  exact ⟨keeps s sourced, by simp⟩

theorem keeps_report {f : State → List Finding} (told : ∀ s, s.Sourced text → ∀ x ∈ f s, ok x) :
    (report f).Keeps text ok := by
  intro s after found sourced ran
  cases ran
  exact ⟨sourced, told s sourced⟩

theorem keeps_andThen (firstKeeps : first.Keeps text ok) (secondKeeps : second.Keeps text ok) :
    (first.andThen second).Keeps text ok := by
  intro s after found sourced ran
  obtain ⟨between, some, more, firstRan, secondRan, rfl⟩ := andThen_eq_ok ran
  obtain ⟨sourced, someTold⟩ := firstKeeps s between some sourced firstRan
  obtain ⟨sourced, moreTold⟩ := secondKeeps between after more sourced secondRan
  exact ⟨sourced, fun f member => (List.mem_append.mp member).elim (someTold f) (moreTold f)⟩

theorem keeps_nil : (all []).Keeps text ok :=
  keeps_skip

theorem keeps_cons (firstKeeps : step.Keeps text ok) (restKeeps : (all steps).Keeps text ok) :
    (all (step :: steps)).Keeps text ok :=
  keeps_andThen firstKeeps restKeeps

theorem keeps_ite {p : State → Bool} (whenTrue : first.Keeps text ok) (whenFalse : second.Keeps text ok) :
    Keeps text ok (fun s => if p s then first s else second s) := by
  intro s after found sourced ran
  dsimp only at ran
  split at ran
  · exact whenTrue s after found sourced ran
  · exact whenFalse s after found sourced ran

theorem keeps_onNames {f : Names → Names × List Finding}
    (pending : ∀ n : Names, ∀ m ∈ (f n).1.pending, m ∈ n.pending ∨ Mentions text m)
    (told : ∀ n : Names, ∀ x ∈ (f n).2, ok x) : (onNames f).Keeps text ok := by
  intro s after found sourced ran
  cases ran
  refine ⟨{ sourced with pending := fun m member => ?_ }, told s.names⟩
  cases pending s.names m member with
  | inl old => exact sourced.pending m old
  | inr new => exact new

end Step

end ChartConfig
