import ChartConfig.Proofs.Validation.Declared

/-!
# What earlier sections leave

A section leaves its settings to later sections until a section of its own name begins, or one that may
enclose it. Values stay until a widget begins. Both are told here from the passages that came before, the
latest first, and `Ledger.Follows` carries them through a document.
-/

namespace ChartConfig

open Text

namespace Passage

/-- The section declares a setting of the slot outside conditions, one that may not be repeated. -/
def supplies (p : Passage) (slot : Slot) : Bool :=
  p.entries.any fun e => e.branch.isNone && e.supplies slot

/-- The section of the given name whose settings are in reach: the latest, unless a section that may enclose
    it has begun since. -/
def inReach? (r : Registry) (name : String) : (earlier : List Passage) → Option Passage
  | [] => none
  | p :: earlier =>
    if p.header.name = name then some p
    else if p.header.name ∈ r.ancestors name then none
    else inReach? r name earlier

/-- The assignments since the last widget began, in order. -/
def assigned (preamble : List Entry) : (earlier : List Passage) → List Entry
  | [] => preamble
  | p :: earlier =>
    if occursIn "widget".toList p.header.name.toList then p.entries
    else assigned preamble earlier ++ p.entries

end Passage

def Entry.lastValue? (name : String) (es : List Entry) : Option String :=
  (es.reverse.find? fun e => e.name == name).map Entry.value

def Entry.waiveMetric (es : List Entry) : Bool :=
  lastValue? "columnmetric" es == some "null" && lastValue? "columnvalue" es == some "null"

/-! ## Tables of settings -/

namespace Scope

variable {table : List (String × List Setting)} {name : String}

theorem tableValue?_filter (keep : String → Bool) :
    tableValue? (table.filter fun entry => keep entry.1) name =
      if keep name then tableValue? table name else none := by
  induction table with
  | nil => simp [tableValue?]
  | cons first table inductionHypothesis =>
    -- An entry that is filtered out and bears the name hides none: lookup goes on past it.
    by_cases here : first.1 = name
    · subst here
      cases kept : keep first.1 with
      | true => simp [kept, tableValue?]
      | false => simpa [kept, tableValue?] using inductionHypothesis
    · cases kept : keep first.1 with
      | true => simpa [kept, tableValue?, here] using inductionHypothesis
      | false => simpa [kept, tableValue?, here] using inductionHypothesis

theorem tableValue?_bequeathTo (other : String) (settings : List Setting) :
    tableValue? (bequeathTo other settings table) name =
      if other = name then some (merge ((tableValue? table name).getD []) settings)
      else tableValue? table name := by
  induction table with
  | nil => by_cases same : other = name <;> simp [bequeathTo, tableValue?, same]
  | cons first table inductionHypothesis =>
    obtain ⟨key, known⟩ := first
    by_cases here : key = other
    · subst here
      by_cases same : key = name <;> simp [bequeathTo, tableValue?, same]
    · by_cases found : key = name
      · subst found
        simp [bequeathTo, tableValue?, here, Ne.symm here]
      · simpa [bequeathTo, tableValue?, here, found] using inductionHypothesis

theorem fills_nil (slot : Slot) : fills [] slot = false := rfl

theorem fills_merge (slot : Slot) (known settings : List Setting) :
    fills (merge known settings) slot = (fills known slot || fills settings slot) := by
  induction settings generalizing known with
  | nil => simp [merge, fills]
  | cons setting settings inductionHypothesis =>
    have step : merge known (setting :: settings) =
        merge (if setting.isIn known then known else known ++ [setting]) settings := rfl
    rw [step, inductionHypothesis]
    split
    · next isIn =>
      rw [← fills_of_isIn slot setting isIn]
      simp [fills, Bool.or_assoc]
    · simp [fills, Bool.or_assoc]

end Scope

/-! ## The ledger and the passages before -/

namespace Ledger

variable {r : Registry} {l : Ledger} {preamble : List Entry} {earlier : List Passage} {p : Passage}

/-- The ledger holds what the earlier passages leave, once the last of them is closed. -/
structure Follows (r : Registry) (preamble : List Entry) (earlier : List Passage) (l : Ledger) : Prop where
  values : l.values = ((Passage.assigned preamble earlier).map fun e => (e.name, e.value)).reverse
  reach : ∀ name slot, Scope.fills ((tableValue? (l.close r).scope.inherited name).getD []) slot =
    (Passage.inReach? r name earlier).any fun p => p.supplies slot

theorem close_inherited : (l.close r).scope.inherited =
    match l.scope.current with
    | some header => Scope.bequeathTo header.name l.scope.settings l.scope.inherited
    | none => l.scope.inherited := by
  rw [close_scope, Scope.bequeath]
  cases l.scope.current <;> rfl

theorem entered_inherited (header : Header) (name : String) :
    tableValue? ((l.close r).enter r header).scope.inherited name =
      if header.name = name ∨ header.name ∈ r.ancestors name then none
      else tableValue? (l.close r).scope.inherited name := by
  have filtered := @Scope.tableValue?_filter (l.close r).scope.inherited name fun other =>
    other != header.name && !(r.ancestors other).contains header.name
  refine filtered.trans ?_
  by_cases same : header.name = name
  · simp [same]
  · by_cases above : header.name ∈ r.ancestors name
    · simp [above]
    · simp [same, above, Ne.symm same]

theorem Follows.ended (follows : l.Follows r preamble earlier) (inner : ∀ e ∈ p.body, e.isInner = true) :
    (p.ended r l).Follows r preamble (p :: earlier) := by
  obtain ⟨holds, values⟩ := @Passage.ended_holds r l p inner
  obtain ⟨-, same⟩ := @Passage.ended_within r l p inner
  have current : (p.ended r l).scope.current = some p.header := same.current
  constructor
  · rw [values]
    cases widget : occursIn "widget".toList p.header.name.toList with
    | true => simp only [enter, Passage.assigned, widget, if_true, List.append_nil]
    | false =>
      simp only [enter, close, Passage.assigned, widget, Bool.false_eq_true, if_false, follows.values,
        List.map_append, List.reverse_append]
  · intro name slot
    rw [close_inherited, current]
    simp only
    rw [Scope.tableValue?_bequeathTo, same.inherited, entered_inherited]
    by_cases named : p.header.name = name
    · have own : Scope.fills (p.ended r l).scope.settings slot = p.supplies slot := holds.fills slot
      simp [named, Passage.inReach?, Scope.fills_merge, own, Scope.fills_nil]
    · by_cases above : p.header.name ∈ r.ancestors name
      · simp [named, above, Passage.inReach?, Scope.fills]
      · simpa [named, above, Passage.inReach?] using follows.reach name slot

theorem Follows.afterPassages {ps : List Passage} (follows : l.Follows r preamble earlier)
    (inner : ∀ p ∈ ps, ∀ e ∈ p.body, e.isInner = true) (whole : ∀ p ∈ ps, p.ownBody = p.body) :
    (l.afterPassages r ps).Follows r preamble (ps.reverse ++ earlier) := by
  induction ps generalizing l earlier with
  | nil => exact follows
  | cons p ps inductionHypothesis =>
    have ended : p.read r l = p.ended r l := by
      simp [Passage.read, Passage.events, Passage.ended, readAll, read, whole p (List.mem_cons_self ..)]
    have first : (p.read r l).Follows r preamble (p :: earlier) := by
      rw [ended]
      exact follows.ended (inner p (List.mem_cons_self ..))
    simpa [Ledger.afterPassages] using inductionHypothesis first
      (fun q member => inner q (List.mem_cons_of_mem _ member))
      (fun q member => whole q (List.mem_cons_of_mem _ member))

theorem waived_eq {es : List Entry} (values : l.values = (es.map fun e => (e.name, e.value)).reverse) :
    l.waived = Entry.waiveMetric es := by
  have last (name : String) : tableValue? l.values name = Entry.lastValue? name es := by
    rw [tableValue?, Entry.lastValue?, values, ← List.map_reverse, List.find?_map, Option.map_map]
    rfl
  rw [waived, Entry.waiveMetric, last, last]

end Ledger

def Document.preambleEntries (r : Registry) (text : String) : List Entry :=
  (Event.preamble (Document.events r text)).filterMap Event.entry?

theorem Document.preambleLedger_follows (r : Registry) (text : String) :
    (Document.preambleLedger r text).Follows r (Document.preambleEntries r text) [] := by
  have inner : ∀ e ∈ Event.preamble (Document.events r text), e.isInner = true :=
    fun e member => Event.inner_of_mem_preamble member
  obtain ⟨-, same⟩ := @Ledger.readAll_within r {} _ inner (by intro tags; cases tags)
  have empty : ({} : Scope).Holds r [] := ⟨fun _ => rfl, rfl, rfl, .nil, by simp⟩
  obtain ⟨-, values⟩ := @Ledger.foldl_assign r {} rfl [] empty (Document.preambleEntries r text)
  constructor
  · rw [Document.preambleLedger, Ledger.readAll_eq_foldl inner (by intro tags; cases tags)]
    simpa [Passage.assigned, Document.preambleEntries] using values
  · intro name slot
    have current : (Document.preambleLedger r text).scope.current = none := by
      rw [Document.preambleLedger, same.current]
    have inherited : (Document.preambleLedger r text).scope.inherited = [] := by
      rw [Document.preambleLedger, same.inherited]
    rw [Ledger.close_inherited, current]
    simp only [inherited]
    rfl

end ChartConfig
