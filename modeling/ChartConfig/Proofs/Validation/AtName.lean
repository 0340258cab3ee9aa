import ChartConfig.Proofs.Validation.Collections

/-!
# What is said at the name of a setting

A name to which a line assigns is the one piece of the document that starts where it does. So what stands there comes
from the line itself: from the setting, or from a keyword that is spelled like the name. Where it is not worded like a
remark on keywords or template marks, it is told exactly as often as the assignment of the setting tells it.
-/

namespace ChartConfig

open Text Finding

/-- The diagnostic stands at the name of the assignment, and it is worded neither like a remark on template marks nor
    like one on keywords. -/
structure Diagnostic.OnName (number : Nat) (a : Assignment) (d : Diagnostic) : Prop where
  range : d.range = a.name.range number
  noMark : d.severity ≠ .information
  noDisorder : d.isStructural = false
  noBreak : d.message ≠ Message.scriptNeedsBreak

/-! ## Elsewhere -/

namespace Finding

variable {number : Nat} {found : List Finding}

theorem each_of_allOn (allOn : AllOn number found) : Each (fun d => d.range.start.line = number) found := by
  intro d member
  obtain ⟨f, isFound, isProblem⟩ := List.mem_filterMap.mp member
  cases f with
  | note n => cases isProblem
  | problem e =>
    cases isProblem
    exact allOn _ isFound

end Finding

namespace Step

variable {r : Registry} {number : Nat} {line : List Char} {following : List (List Char)}

theorem tellsOnLine_declare (setting : Setting) (name : String) {range : Range} (place : range.start.line = number) :
    (Assign.declare setting name range).Tells fun d => d.range.start.line = number := by
  have repetition : Each (fun d => d.range.start.line = number) [.problem (setting.repetition range name)] :=
    each_single (by rw [Assign.repetition_on, place])
  intro s after found ran
  simp only [Assign.declare] at ran
  split at ran
  · split at ran <;> cases ran
    exact each_ite each_nil repetition
  · cases ran
    exact each_ite each_nil repetition

theorem tellsOnLine_declaring (a : Assignment) (setting : Setting) :
    (Assign.declaring r number a setting).Tells fun d => d.range.start.line = number := by
  have place : (a.name.range number).start.line = number := rfl
  refine tells_all ?_
  simp only [List.forall_mem_cons]
  refine ⟨tells_report fun _ => each_ite (each_single rfl) each_nil, tells_update _,
    tells_ite tells_skip (tellsOnLine_declare setting _ place), tells_report fun _ => each_ite each_nil ?_,
    tells_report fun s => each_of_allOn (Assign.conflicts_on s.scope setting _ place), List.forall_mem_nil _⟩
  exact each_of_allOn (Assign.check_on setting _ _ _ place)

end Step

namespace State

variable {s : State} {r : Registry} {number : Nat} {line : List Char} {following : List (List Char)}
  {found : List Finding}

theorem onLine_of_tellsOn (told : s.TellsOn r number line following found) :
    Each (fun d => d.range.start.line = number) found := by
  cases told with
  | templateMark =>
    refine (Step.tells_report fun s => ?_).found s
    split
    · exact each_single rfl
    · exact each_nil
  | tableRow =>
    refine (Step.tells_report fun s => ?_).found s
    exact each_ite each_nil (each_single rfl)
  | heading headed => exact each_ite (each_single (Line.line_header? headed)) each_nil
  | tag a => exact each_of_allOn (Assign.tag_on a.name _ rfl)
  | setting a setting => exact (Step.tellsOnLine_declaring a setting).found (s.noting a)
  | unclosedHeader =>
    cases unclosed : Line.unclosedHeader? line number with
    | none => exact each_nil
    | some h =>
      obtain ⟨p, -, rfl⟩ := Option.map_eq_some_iff.mp unclosed
      exact each_single rfl
  | keyword isKeyword between => exact ((Step.tells_keywordLine isKeyword).found between).mono fun _ => (·.onLine)

/-- No header or name that the state keeps stands in the range. -/
structure Avoids (range : Range) (s : State) : Prop where
  current : ∀ h, s.scope.current = some h → h.range ≠ range
  uses : ∀ m ∈ s.aliases.uses, m.range ≠ range
  pending : ∀ m ∈ s.names.pending, m.range ≠ range

variable {d : Diagnostic} {range : Range} {act : Act}

theorem Avoids.range_of_judgement? (avoids : s.Avoids range) {j : Judgement} (judged : s.ledger.judgement? r = some j) :
    j.header.range ≠ range :=
  avoids.current j.header (Ledger.judgement?_eq_some judged).2.1

theorem range_of_mem_said_judges {j : Judgement} (member : d ∈ (Act.judges j).said r) : d.range = j.header.range :=
  (range_demandsFor member).1

theorem Avoids.not_mem_said (avoids : s.Avoids d.range) (elsewhere : d.range.start.line ≠ number)
    (member : act ∈ s.lineActs r number line following) : d ∉ act.said r := by
  intro said
  cases does_lineActs member with
  | judges judged => exact avoids.range_of_judgement? judged (range_of_mem_said_judges said).symm
  | repeatsAlias repeated =>
    obtain ⟨p, -, rfl⟩ := List.mem_map.mp repeated
    cases List.mem_singleton.mp said
    exact elsewhere rfl
  | tells told => exact elsewhere (onLine_of_tellsOn told d said)
  | @misses kind m isRead missed =>
    cases List.mem_singleton.mp said
    have here (p : Piece) (_ : Line.LooksUp line p) : p.range number ≠ m.range := fun same =>
      elsewhere (congrArg (·.start.line) same).symm
    exact range_of_missesOn (P := (· ≠ m.range)) here avoids.uses missed rfl

theorem Avoids.not_mem_said_last (avoids : s.Avoids d.range) (notLeft : ∀ b ∈ s.blocks, b.unclosed ≠ d)
    (member : act ∈ s.lastActs r) : d ∉ act.said r := by
  intro said
  simp only [lastActs, judgementActs, List.mem_append, List.mem_map, List.mem_singleton] at member
  obtain ((⟨m, missed, rfl⟩ | rfl) | ⟨j, judged, rfl⟩) | ⟨m, missed, rfl⟩ := member
  · cases List.mem_singleton.mp said
    exact Aliases.range_of_mem_misses (P := (· ≠ m.range)) avoids.uses missed rfl
  · rw [Act.said_tells, Blocks.diagnostics_leftOpen] at said
    obtain ⟨b, isOpen, isLeft⟩ := List.mem_map.mp said
    exact notLeft b isOpen isLeft
  · exact avoids.range_of_judgement? (Option.mem_toList.mp judged) (range_of_mem_said_judges said).symm
  · cases List.mem_singleton.mp said
    obtain ⟨waits, isWaiting, rfl⟩ := List.mem_map.mp missed
    exact avoids.pending waits (List.mem_of_mem_filter isWaiting) rfl

end State

/-! ## On the line itself -/

theorem Act.count_said_eq_zero {r : Registry} {d : Diagnostic} {acts : List Act}
    (unsaid : ∀ act ∈ acts, d ∉ act.said r) : (acts.flatMap (Act.said r)).count d = 0 := by
  refine List.count_eq_zero.mpr fun said => ?_
  obtain ⟨act, member, isSaid⟩ := List.mem_flatMap.mp said
  exact unsaid act member isSaid

namespace Passing

variable {r : Registry} {x : Passing} {a : Assignment} {setting : Setting} {d : Diagnostic}

theorem Sets.range_ne (sets : x.Sets r a setting) {p : Piece} (behind : Behind p.column x.line) :
    p.range x.number ≠ a.name.range x.number := fun same =>
  Line.column_ne_of_behind sets.assigns behind (congrArg (·.start.character) same)

theorem not_mem_said_misses {kind : Lookup} {ms : List Miss} (apart : ∀ m ∈ ms, m.range ≠ d.range) :
    ∀ act ∈ ms.map (Act.misses kind), d ∉ act.said r := by
  intro act member said
  obtain ⟨m, isMiss, rfl⟩ := List.mem_map.mp member
  cases List.mem_singleton.mp said
  exact apart m isMiss rfl

theorem Sets.lineActs_eq (sets : x.Sets r a setting) (following : List (List Char)) :
    x.before.lineActs r x.number x.line following =
      .tells ((Step.templateMark x.number x.line).found x.before) ::
        .tells ((Assign.declaring r x.number a setting).found (x.before.noting a)) ::
        (((if setting.name == "urlparameters" then []
            else (Assign.templateMisses x.number a.value x.before.names).map (.misses .templateWord)) ++
          if setting.name == "alias" then (x.before.aliases.repeated x.number x.line).map .repeatsAlias else []) ++
        ((if x.before.blocks.isIn .forBlock then
            (Assign.loopMisses x.number x.line x.before.names).map (.misses .loopWord) else []) ++
        (.tells [] ::
          (Line.keywordAt? x.line x.number).elim [] fun found =>
            [.tells ((Step.keywordLine x.number x.line following found).found
              ((Step.content r x.number x.line).after x.before))]))) := by
  have isRead := sets.isRead
  simp only [Control.reads, State.control, Bool.and_eq_true, Bool.not_eq_true'] at isRead
  simp only [State.lineActs, isRead, Bool.false_eq_true, if_false, State.contentActs, sets.noHeader, sets.not_blank,
    Bool.false_and, State.plainActs, sets.assigns, Option.elim_some, State.assignmentActs, sets.noTags, sets.known,
    State.settingActs, Line.templateDeclaration?_of_assignment? sets.assigns, Option.elim_none, List.append_nil,
    Line.unclosedHeader?_of_assignment? x.number sets.assigns, List.cons_append, List.append_assoc, List.nil_append,
    State.noting]

/-! ### What else such a line says -/

section

variable (sets : x.Sets r a setting) (onName : d.OnName x.number a)
include sets onName

theorem Sets.range_ne_onName {p : Piece} (behind : Behind p.column x.line) : p.range x.number ≠ d.range :=
  onName.range ▸ sets.range_ne behind

omit sets in
theorem not_mem_templateMark : d ∉ diagnostics ((Step.templateMark x.number x.line).found x.before) := by
  have information : Each (fun d => d.severity = .information) ((Step.templateMark x.number x.line).found x.before) := by
    refine (Step.tells_report fun s => ?_).found x.before
    split
    · exact each_single rfl
    · exact each_nil
  exact fun told => onName.noMark (information d told)

theorem Sets.not_mem_templateWords : ∀ act ∈ (if setting.name == "urlparameters" then []
    else (Assign.templateMisses x.number a.value x.before.names).map (Act.misses .templateWord)), d ∉ act.said r := by
  split
  · exact List.forall_mem_nil _
  · refine not_mem_said_misses fun m missed => ?_
    obtain ⟨body, -, missed⟩ := List.mem_flatMap.mp missed
    obtain ⟨w, -, rfl⟩ := List.mem_map.mp missed
    refine sets.range_ne_onName onName ((Line.place_of_assignment? sets.assigns).2.behind.mono ?_)
    simp only [Piece.shift]
    omega

theorem Sets.not_mem_repeatedAliases : ∀ act ∈ (if setting.name == "alias" then
    (x.before.aliases.repeated x.number x.line).map Act.repeatsAlias else []), d ∉ act.said r := by
  split
  · intro act member said
    obtain ⟨m, repeated, rfl⟩ := List.mem_map.mp member
    obtain ⟨p, isAlias, rfl⟩ := List.mem_map.mp repeated
    rw [Option.mem_toList, Option.filter_eq_some_iff] at isAlias
    cases List.mem_singleton.mp said
    exact sets.range_ne_onName onName (Line.behind_of_aliasName? isAlias.1) rfl
  · exact List.forall_mem_nil _

theorem Sets.not_mem_loopWords : ∀ act ∈ (if x.before.blocks.isIn .forBlock then
    (Assign.loopMisses x.number x.line x.before.names).map (Act.misses .loopWord) else []), d ∉ act.said r := by
  split
  · refine not_mem_said_misses fun m missed => ?_
    obtain ⟨e, isExpression, missed⟩ := List.mem_flatMap.mp missed
    obtain ⟨i, isIdentifier, rfl⟩ := List.mem_map.mp missed
    have marked := Reference.marked_of_mem_identifiers isExpression (List.mem_of_mem_filter isIdentifier)
    exact sets.range_ne_onName onName marked.behind
  · exact List.forall_mem_nil _

/-- What a keyword says stands behind it, or is worded like nothing that is said of a setting. -/
theorem Sets.not_mem_keywordLine {found : KeywordAt} (isKeyword : Line.keywordAt? x.line x.number = some found)
    (following : List (List Char)) (s : State) :
    d ∉ diagnostics ((Step.keywordLine x.number x.line following found).found s) := by
  intro told
  cases (Step.tells_keywordLine isKeyword).found _ d told with
  | disorder _ kind =>
    exact absurd (Diagnostic.isStructural_iff.mpr ⟨kind, rfl⟩) (Bool.eq_false_iff.mp onName.noDisorder)
  | alreadyDefined behind | emptyLoop behind => exact sets.range_ne_onName onName behind rfl
  | scriptNeedsBreak => exact onName.noBreak rfl

end

theorem Sets.count_said (sets : x.Sets r a setting) (onName : d.OnName x.number a) (following : List (List Char)) :
    ((x.before.lineActs r x.number x.line following).flatMap (Act.said r)).count d =
      (diagnostics ((Assign.declaring r x.number a setting).found (x.before.noting a))).count d := by
  rw [sets.lineActs_eq, List.flatMap_cons, List.flatMap_cons, List.count_append, List.count_append, Act.said_tells,
    Act.said_tells, List.count_eq_zero.mpr (not_mem_templateMark onName), Nat.zero_add]
  refine Nat.add_eq_left.mpr (Act.count_said_eq_zero ?_)
  simp only [List.forall_mem_append, List.forall_mem_cons]
  refine ⟨⟨sets.not_mem_templateWords onName, sets.not_mem_repeatedAliases onName⟩, sets.not_mem_loopWords onName,
    List.not_mem_nil, ?_⟩
  cases isKeyword : Line.keywordAt? x.line x.number with
  | none => exact List.forall_mem_nil _
  | some found => exact List.forall_mem_singleton.mpr (sets.not_mem_keywordLine onName isKeyword following _)

end Passing

/-! ## In the document -/

namespace Document

variable {r : Registry} {text : String} {before after : List Passing} {x y : Passing} {a : Assignment}
  {setting : Setting} {d : Diagnostic}

theorem eq_of_number (isPassed : x ∈ passings r text) (alsoPassed : y ∈ passings r text) (same : x.number = y.number) :
    x = y := by
  obtain ⟨last, reached⟩ := exists_reached_last r text
  exact reached.eq_of_number isPassed alsoPassed same

theorem avoids_name {passed : List Passing} {s : State} (reached : Reached r passed s)
    (areLines : ∀ y ∈ passed, y ∈ passings r text) (isPassed : x ∈ passings r text) (sets : x.Sets r a setting) :
    s.Avoids (a.name.range x.number) := by
  have apart {y : Passing} (isLine : y ∈ passed) {p : Piece} (behind : Behind p.column y.line) :
      p.range y.number ≠ a.name.range x.number := by
    intro same
    obtain rfl := eq_of_number (areLines y isLine) isPassed (congrArg (·.start.line) same)
    exact sets.range_ne behind same
  have traced := reached.traced
  refine ⟨fun h isCurrent same => ?_, fun m isUse => ?_, fun m waits => ?_⟩
  · obtain ⟨y, isLine, heads⟩ := traced.current h isCurrent
    have onLine : y.number = x.number := by
      rw [← Line.line_header? heads.headed, same]
      rfl
    obtain rfl := eq_of_number (areLines y isLine) isPassed onLine
    exact sets.not_heads h heads
  · obtain ⟨y, isLine, p, marked, range⟩ := traced.uses m isUse
    exact range ▸ apart isLine marked.behind
  · obtain ⟨y, isLine, p, collects, range⟩ := traced.pending m waits
    rw [range]
    intro same
    obtain rfl := eq_of_number (areLines y isLine) isPassed (congrArg (·.start.line) same)
    have behind := (Line.place_of_loopCollection? collects).2.1
    rw [← (Line.place_of_assignment? sets.assigns).1] at behind
    exact Nat.ne_of_gt behind (congrArg (·.start.character) same)

theorem nodup_passings (r : Registry) (text : String) : (passings r text).Nodup := by
  obtain ⟨last, reached⟩ := exists_reached_last r text
  exact List.Nodup.of_map Passing.number (reached.numbers ▸ List.nodup_range)

/-- What stands on a line, and where no state keeps anything, is said because of that line. -/
theorem acts_around {P : Diagnostic → Prop} (split : passings r text = before ++ x :: after)
    (onLine : ∀ d, P d → d.range.start.line = x.number)
    (avoids : ∀ passed s, Reached r passed s → (∀ y ∈ passed, y ∈ passings r text) →
      ∀ d, P d → s.Avoids d.range ∧ ∀ b ∈ s.blocks, b.unclosed ≠ d) :
    ∃ following early late, acts r text = early ++ x.before.lineActs r x.number x.line following ++ late ∧
      ∀ act ∈ early ++ late, ∀ d ∈ act.said r, ¬ P d := by
  have isPassed : x ∈ passings r text := by simp [split]
  obtain ⟨following, early, late, areActs, elsewhere⟩ := acts_at split
  refine ⟨following, early, late, areActs, fun act member d said holds => ?_⟩
  rcases elsewhere act member with ⟨y, isOther, rest, did⟩ | ⟨last, reached, atEnd⟩
  · have isLine : y ∈ passings r text := by
      rw [split]
      exact List.mem_append.mpr ((List.mem_append.mp isOther).imp_right (List.mem_cons_of_mem x))
    have different : d.range.start.line ≠ y.number := by
      intro same
      obtain rfl := eq_of_number isPassed isLine ((onLine d holds).symm.trans same)
      have distinct := nodup_passings r text
      rw [split, List.nodup_middle, List.nodup_cons] at distinct
      exact distinct.1 isOther
    obtain ⟨earlier, later, parts, reached⟩ := exists_reached r isLine
    have avoidsThere := avoids earlier y.before reached (fun z isEarlier => by simp [parts, isEarlier]) d holds
    exact avoidsThere.1.not_mem_said different did said
  · have avoidsThere := avoids _ last reached (fun z isLine => isLine) d holds
    exact avoidsThere.1.not_mem_said_last avoidsThere.2 atEnd said

/-- Whatever is said of a document at the name is told by the assignment, as often. -/
theorem count_onName (split : passings r text = before ++ x :: after) (sets : x.Sets r a setting)
    (onName : d.OnName x.number a) : ((acts r text).flatMap (Act.said r)).count d =
      (diagnostics ((Assign.declaring r x.number a setting).found (x.before.noting a))).count d := by
  have isPassed : x ∈ passings r text := by simp [split]
  obtain ⟨following, early, late, areActs, apart⟩ := @acts_around r text before after x (· = d) split
    (fun _ same => by rw [same, onName.range]; rfl) (fun passed s reached areLines _ same => by
      subst same
      refine ⟨onName.range ▸ avoids_name reached areLines isPassed sets, fun b _ isLeft => ?_⟩
      exact absurd (isLeft ▸ b.isStructural_unclosed) (Bool.eq_false_iff.mp onName.noDisorder))
  have unsaid : ∀ act ∈ early ++ late, d ∉ act.said r := fun act member said => apart act member d said rfl
  rw [List.forall_mem_append] at unsaid
  rw [areActs, List.flatMap_append, List.flatMap_append, List.count_append, List.count_append,
    Act.count_said_eq_zero unsaid.1, Act.count_said_eq_zero unsaid.2, sets.count_said onName, Nat.zero_add, Nat.add_zero]

end Document

end ChartConfig
