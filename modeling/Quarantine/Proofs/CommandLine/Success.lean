import Quarantine.Proofs.CommandLine.Outcome
import Quarantine.Proofs.CommandLine.Reprocess

/-!
# Commands that succeed

Where no operation is refused, a command that finds what it reads gets through with it.

    load, compile, loadCheckpoint, loadHistory   give what the disk has
    redacting again                              writes its rows, if the file for them can be made
-/

namespace Quarantine.CommandLine

open Quarantine.Disk Session
open Quarantine.Job hiding outcome outcome_bind_of_outcome succeeds_bind_of_outcome

variable {s : Surroundings} {t : Transcript} {d : Disk}

/-! ## What commands read -/

namespace RuleChoice

variable {c : RuleChoice} {table table' : RuleTable}

theorem Loads.unique (h : c.Loads d table) (h' : c.Loads d table') : table = table' := by
  obtain ⟨choice, columns⟩ := c
  cases choice with
  | none => exact h.trans h'.symm
  | some path =>
    obtain ⟨content, text, hc, ht, hparse⟩ := h
    obtain ⟨content', text', hc', ht', hparse'⟩ := h'
    obtain rfl := Except.ok.inj (hc.symm.trans hc')
    obtain rfl := Option.some.inj (ht.symm.trans ht')
    exact Except.ok.inj (hparse.symm.trans hparse')

theorem outcome_load (h : c.Loads d table) : outcome s c.load t d = ((.ok table, t), d) := by
  obtain ⟨choice, columns⟩ := c
  cases choice with
  | none =>
    obtain rfl : table = .standard := h
    rfl
  | some path =>
    obtain ⟨content, text, hc, ht, hparse⟩ := h
    refine (outcome_bind_of_outcome (outcome_perform (Job.outcome_readText hc ht))).trans ?_
    rw [hparse]
    rfl

theorem outcome_compile (h : c.Loads d table) {columns : List String} {rules : RuleSet}
    (hrules : RuleSet.compile table columns = .ok rules) :
    outcome s (c.compile columns) t d = ((.ok rules, t), d) := by
  refine (outcome_bind_of_outcome (outcome_load h)).trans ?_
  rw [hrules]
  rfl

/-- Columns that are given are those that are compiled for. -/
theorem columnsOr_of_ne_nil (h : c.columns ≠ []) (inferred : Option (List String)) :
    c.columnsOr inferred = c.columns := by
  rw [columnsOr, if_neg]
  intro hempty
  exact h (List.isEmpty_iff.1 hempty)

end RuleChoice

section

variable {l : Layout} {checkpoint : Checkpoint} {history : List Event}

theorem outcome_loadCheckpoint (h : checkpoint.FoundAt l.checkpoint d) :
    outcome s (loadCheckpoint l) t d = ((.ok checkpoint, t), d) :=
  outcome_perform (Checkpoint.load_of_foundAt h)

theorem outcome_loadHistory (h : checkpoint.FoundAt l.checkpoint d)
    (hhistory : l.metrics.Shows Event.parse? checkpoint.batches d history) :
    outcome s (loadHistory l) t d = ((.ok history, t), d) :=
  (outcome_bind_of_outcome (outcome_loadCheckpoint h)).trans (outcome_perform hhistory.outcome)

end

/-! ## Redacting again -/

namespace ReprocessCommand

variable {c : ReprocessCommand} {x y : Reading}

/-- A disk is read in one way. -/
theorem Reads.unique (h : c.Reads d x) (h' : c.Reads d y) : x = y := by
  obtain ⟨table, checkpoint, quarantined, history, rules⟩ := x
  obtain ⟨table', checkpoint', quarantined', history', rules'⟩ := y
  obtain ⟨htable, hcheckpoint, hquarantined, hhistory, hrules⟩ := h
  obtain ⟨htable', hcheckpoint', hquarantined', hhistory', hrules'⟩ := h'
  obtain rfl : table = table' := htable.unique htable'
  obtain rfl : checkpoint = checkpoint' := hcheckpoint.unique hcheckpoint'
  obtain rfl : quarantined = quarantined' := hquarantined.unique hquarantined'
  obtain rfl : history = history' := hhistory.unique hhistory'
  obtain rfl : rules = rules' := Except.ok.inj (hrules.symm.trans hrules')
  rfl

/-- That the file for the rows, if one is given, can be made. -/
def CanEmit (c : ReprocessCommand) (d : Disk) : Prop :=
  ∀ path ∈ c.output, ∃ d', d.create path = .ok d'

theorem succeeds_emit (h : c.CanEmit d) (rows : List Processed) :
    Session.Succeeds s (c.emit rows) t d := by
  unfold emit
  cases houtput : c.output with
  | none => exact ⟨(), _, d, rfl⟩
  | some path =>
    obtain ⟨d₁, hcreate⟩ := h path houtput
    obtain ⟨hlocate, hdir, rfl⟩ := create_ok hcreate
    have hget : (d.put path.place (.file .empty)).get? path.place = some (.file .empty) := by
      rw [get?_put (ne_nil_of_get?_ne hdir), if_pos rfl]
    have happend := append_of_locate (locate_mono (keepsDirectories_put hdir) hlocate) hget
      (Rows.render (rows.map Processed.toValue)).toUTF8
    have hchange {d₀ d' : Disk} {r : Except SystemError Disk} (h : r = .ok d') :
        d₀.change r = (.ok (), d') := by
      rw [h]
      rfl
    have hcreated := outcome_ask (s := s) (o := .create path) (hchange hcreate)
    have happended := outcome_ask (s := s) (o := .append path _) (hchange happend)
    exact succeeds_bind_of_outcome (outcome_perform hcreated)
      ⟨(), t, _, outcome_perform happended⟩

/-- What is read is redacted and written. -/
theorem Reads.exists_outcome (h : c.Reads d x) (hemit : c.CanEmit d) (s : Surroundings)
    (t : Transcript) : ∃ t' d', outcome s c.perform t d = ((.ok (), t'), d') ∧
      c.Emits x.rows t t' d' := by
  have hends : Session.Succeeds s c.perform t d := by
    refine succeeds_bind_of_outcome (outcome_loadCheckpoint h.checkpoint) ?_
    refine succeeds_bind_of_outcome (outcome_perform h.quarantined.outcome) ?_
    refine succeeds_bind_of_outcome (RuleChoice.outcome_compile h.table h.rules) ?_
    refine succeeds_bind_of_outcome (outcome_loadHistory h.checkpoint h.history) ?_
    obtain ⟨messages, htold⟩ := outcome_tellEach (s := s) .warning
      ((FailedRules.ofEvents x.history).unknown x.rules) _ t d
    refine succeeds_bind_of_outcome htold ?_
    refine (succeeds_emit hemit _).bind fun _ t₁ d₁ _ => ?_
    exact succeeds_bind_of_outcome (outcome_tell _ _ t₁ d₁) (succeeds_tellIf _ _ _ _ _)
  obtain ⟨_, t', d', ho⟩ := hends
  obtain ⟨y, hreads, hemits⟩ := c.ensures_perform.of_outcome ho
  obtain rfl := h.unique hreads
  exact ⟨t', d', ho, hemits⟩

end ReprocessCommand
end Quarantine.CommandLine
