import Quarantine.CommandLine.Commands
import Quarantine.Proofs.CommandLine.Session
import Quarantine.Proofs.Pipeline.OnRecord
import Quarantine.Proofs.Rule.RuleSet

/-!
# A run, and the redaction of its quarantine again

A run and a later redaction of the quarantine may infer their columns from different records:
the one from the first record of the input, the other from the first that was quarantined.  What
the second knows of the first it has from the metrics, and it selects the rules of the run that
failed, as far as it has their columns.

    rule of the run, failed, column of the first quarantined record → selected again
    rule of the run, failed, another column                         → left aside, with a warning
-/

namespace Quarantine

open Quarantine.Disk Quarantine.Job Quarantine.Json

/-- A record that a plan redacts carries the names of all its rules. -/
theorem Plan.eq_names_of_applied {plan : Plan} {q : Quarantined} {names : List String}
    (h : (plan.process q).redaction = .applied names) : names = plan.names := by
  unfold process at h
  split at h
  · exact (Outcome.applied.inj h).symm
  · cases h

namespace CommandLine

open Session

variable {s : Surroundings} {t : Transcript} {d d' : Disk}

/-! ## What commands read -/

/-- That a rule table is the one that is chosen. -/
def RuleChoice.Loads (c : RuleChoice) (d : Disk) (table : RuleTable) : Prop :=
  match c.table with
  | none => table = .standard
  | some path => ∃ content text, d.read path = .ok content ∧
    String.fromUTF8? content = some text ∧ RuleTable.ofYaml text = .ok table

theorem RuleChoice.ensures_load (c : RuleChoice) :
    Session.Ensures s (fun table t' d' => t' = t ∧ d' = d ∧ c.Loads d table) c.load t d := by
  obtain ⟨table, columns⟩ := c
  cases table with
  | none => exact ensures_pure ⟨rfl, rfl, rfl⟩
  | some path =>
    refine (ensures_perform (Q := fun text t' d' => t' = t ∧ d' = d ∧ ∃ content,
      d.read path = .ok content ∧ String.fromUTF8? content = some text)
      (Job.ensures_readText trivial fun content text hc ht => ⟨rfl, rfl, content, hc, ht⟩)).bind ?_
    rintro text t' d' ⟨rfl, rfl, content, hc, ht⟩
    cases htable : RuleTable.ofYaml text with
    | ok table => exact ensures_pure ⟨rfl, rfl, content, text, hc, ht, htable⟩
    | error e => exact ensures_throw _

theorem RuleChoice.ensures_compile (c : RuleChoice) (columns : List String) :
    Session.Ensures s (fun rules t' d' => t' = t ∧ d' = d ∧ ∃ table, c.Loads d table ∧
      RuleSet.compile table columns = .ok rules) (c.compile columns) t d := by
  refine c.ensures_load.bind ?_
  rintro table t' d' ⟨rfl, rfl, htable⟩
  exact ensures_check fun rules hrules => ⟨rfl, rfl, table, htable, hrules⟩

theorem ensures_loadCheckpoint (layout : Layout) : Session.Ensures s (fun c t' d' =>
    t' = t ∧ d' = d ∧ c.FoundAt layout.checkpoint d) (loadCheckpoint layout) t d :=
  ensures_perform (Checkpoint.ensures_load_found trivial fun _ hc => ⟨rfl, rfl, hc⟩)

theorem ensures_loadHistory (layout : Layout) : Session.Ensures s (fun history t' d' =>
    t' = t ∧ d' = d ∧ ∃ c : Checkpoint, c.FoundAt layout.checkpoint d ∧
      layout.metrics.Shows Event.parse? c.batches d history) (loadHistory layout) t d := by
  refine (ensures_loadCheckpoint layout).bind ?_
  rintro c t' d' ⟨rfl, rfl, hc⟩
  exact ensures_perform (PartTable.ensures_readCommitted_shows trivial
    fun history h => ⟨rfl, rfl, c, hc, h⟩)

/-! ## Redacting again -/

namespace ReprocessCommand

/-- What the command reads, and the rules that it makes of it. -/
structure Reading where
  table : RuleTable
  checkpoint : Checkpoint
  quarantined : List Quarantined
  history : List Event
  rules : RuleSet

namespace Reading

/-- The columns of the first quarantined record. -/
def inferred (x : Reading) : Option (List String) :=
  x.quarantined.head?.map fun q => q.record.columns

def plan (x : Reading) : Plan := .ofEvents x.history x.rules

def rows (x : Reading) : List Processed := x.quarantined.map x.plan.process

end Reading

def layout (c : ReprocessCommand) : Layout := ⟨c.tablePath⟩

/-- That this is what the command reads on a disk. -/
structure Reads (c : ReprocessCommand) (d : Disk) (x : Reading) : Prop where
  table : c.rules.Loads d x.table
  checkpoint : x.checkpoint.FoundAt c.layout.checkpoint d
  quarantined : c.layout.quarantine.Shows Quarantined.parse? x.checkpoint.batches d x.quarantined
  history : c.layout.metrics.Shows Event.parse? x.checkpoint.batches d x.history
  rules : RuleSet.compile x.table (c.rules.columnsOr x.inferred) = .ok x.rules

/-- That rows were written: to the output, or to the file that is given. -/
def Emits (c : ReprocessCommand) (rows : List Processed) (t t' : Transcript) (d' : Disk) : Prop :=
  match c.output with
  | none => t'.output = t.output ++ Rows.render (rows.map Processed.toValue)
  | some path => d'.read path = .ok (Rows.render (rows.map Processed.toValue)).toUTF8

theorem Emits.of_output {c : ReprocessCommand} {rows : List Processed} {t t' t₁ t₁' : Transcript}
    (h : c.Emits rows t t' d) (ho : t₁.output = t.output) (ho' : t₁'.output = t'.output) :
    c.Emits rows t₁ t₁' d := by
  unfold Emits at h ⊢
  rw [ho, ho']
  exact h

theorem ensures_emit (c : ReprocessCommand) (rows : List Processed) :
    Session.Ensures s (fun _ t' d' => c.Emits rows t t' d') (c.emit rows) t d := by
  unfold emit Emits
  cases c.output with
  | none => exact ensures_write rfl
  | some path =>
    refine (ensures_perform (Q := fun _ _ d₁ => d.create path = .ok d₁)
      (ensures_change (o := .create path) change_ok change_error trivial (fun _ => trivial)
        fun _ _ h => h)).bind ?_
    intro _ t₁ d₁ hcreate
    refine (ensures_perform (Q := fun _ _ d₂ => d₁.append path
      (Rows.render (rows.map Processed.toValue)).toUTF8 = .ok d₂)
      (ensures_change (o := .append path _) change_ok change_error trivial (fun _ => trivial)
        fun _ _ h => h)).mono ?_
    intro _ t₂ d₂ happend
    obtain ⟨-, hdir, rfl⟩ := create_ok hcreate
    obtain ⟨hlocate, before, hbefore, rfl⟩ := append_ok happend
    have hne := ne_nil_of_get?_ne hdir
    rw [get?_put hne, if_pos rfl] at hbefore
    obtain rfl := Node.file.inj (Option.some.inj hbefore)
    rw [ByteArray.empty_append] at happend ⊢
    refine read_ok_iff.2 ⟨locate_mono (append_keepsDirectories happend) hlocate, ?_⟩
    rw [get?_put hne, if_pos rfl]

theorem ensures_perform (c : ReprocessCommand) : Session.Ensures s (fun _ t' d' =>
    ∃ x, c.Reads d x ∧ c.Emits x.rows t t' d') c.perform t d := by
  refine (ensures_loadCheckpoint c.layout).bind ?_
  rintro checkpoint t₁ d₁ ⟨rfl, rfl, hcheckpoint⟩
  refine (Session.ensures_perform (Q := fun quarantined t' d' => t' = t₁ ∧ d' = d₁ ∧
    c.layout.quarantine.Shows Quarantined.parse? checkpoint.batches d₁ quarantined)
    (PartTable.ensures_readCommitted_shows trivial fun _ h => ⟨rfl, rfl, h⟩)).bind ?_
  rintro quarantined t' d' ⟨rfl, rfl, hquarantined⟩
  refine (c.rules.ensures_compile _).bind ?_
  rintro rules t₁ d₁ ⟨rfl, rfl, table, htable, hrules⟩
  refine (ensures_loadHistory c.layout).bind ?_
  rintro history t' d' ⟨rfl, rfl, checkpoint', hcheckpoint', hhistory⟩
  obtain rfl := hcheckpoint.unique hcheckpoint'
  let x : Reading := ⟨table, checkpoint, quarantined, history, rules⟩
  have hreads : c.Reads d' x := ⟨htable, hcheckpoint, hquarantined, hhistory, hrules⟩
  refine (ensures_tellEach (Q := fun _ t₁ d₁ => d₁ = d' ∧ ∃ messages, t₁ = { t' with messages })
    _ _ fun messages => ⟨rfl, messages, rfl⟩).bind ?_
  rintro _ _ d₁ ⟨rfl, messages, rfl⟩
  refine (c.ensures_emit x.rows).bind fun _ t₂ d₂ hemits => ?_
  refine (ensures_tell (Q := fun _ t₃ d₃ => d₃ = d₂ ∧ ∃ messages, t₃ = { t₂ with messages })
    ⟨rfl, _, rfl⟩).bind ?_
  rintro _ _ d₃ ⟨rfl, messages', rfl⟩
  exact ensures_tellIf fun _ => ⟨x, hreads, hemits.of_output rfl rfl⟩

end ReprocessCommand

/-! ## Running -/

namespace RunCommand

def layout (c : RunCommand) : Layout := ⟨c.tablePath⟩

/-- That columns are taken from the next record of the input, unless they are given. -/
def Infers (c : RunCommand) (s : Surroundings) (d : Disk) (source : Source)
    (inferred : Option (List String)) : Prop :=
  if c.rules.columns.isEmpty then
    ∃ checkpoint : Checkpoint, checkpoint.FoundAt c.layout.checkpoint d ∧
      ((Source.ofDirectory c.inputPath).inferColumns checkpoint).Gives s d (.ok inferred, source) d
  else source = .ofDirectory c.inputPath ∧ inferred = none

/-- How a run goes that ends well: what it compiles its rules from, and where its runner begins
and ends. -/
structure Course where
  table : RuleTable
  source : Source
  inferred : Option (List String)
  rules : RuleSet
  opened : Runner
  summary : RunSummary
  ended : Runner

/-- That a run goes so from one disk to another. -/
structure Takes (c : RunCommand) (s : Surroundings) (d d' : Disk) (x : Course) : Prop where
  table : c.rules.Loads d x.table
  inferred : c.Infers s d x.source x.inferred
  rules : RuleSet.compile x.table (c.rules.columnsOr x.inferred) = .ok x.rules
  ran : ∃ d₁, Action.Gives s (Runner.open? x.rules x.source c.layout c.options).run d
    (.ok x.opened) d₁ ∧ x.opened.run.Gives s d₁ (.ok x.summary, x.ended) d'

/-- What the run selected by is on record where it ends. -/
theorem Takes.kept {c : RunCommand} {x : Course} (h : c.Takes s d d' x) :
    x.ended.layout = c.layout ∧ x.opened.Kept x.summary.batches x.ended d' := by
  obtain ⟨d₁, ⟨fates, rest, hopened⟩, fates', rest', hran⟩ := h.ran
  obtain ⟨hlayout, honRecord⟩ :=
    (Runner.ensures_open_onRecord x.rules x.source c.layout c.options d).result hopened
  have hkept := (Runner.ensures_run_kept honRecord).result hran x.summary rfl
  exact ⟨hkept.layout.trans hlayout, hkept⟩

theorem ensures_source (c : RunCommand) : Session.Ensures s (fun x t' d' => t' = t ∧ d' = d ∧
    c.Infers s d x.1 x.2) (c.source c.layout) t d := by
  unfold source Infers
  split
  · refine (ensures_loadCheckpoint c.layout).bind ?_
    rintro checkpoint t' d' ⟨rfl, rfl, hc⟩
    refine (ensures_act (Q := fun x t₁ d₁ => t₁ = t' ∧ d₁ = d' ∧
      ((Source.ofDirectory c.inputPath).inferColumns checkpoint).Gives s d' x d') ?_).bind ?_
    · refine (Action.ensures_gives (Source.ensures_inferColumns checkpoint _ d')).mono
        (fun _ h => h) ?_
      rintro x d₁ ⟨rfl, hgives⟩
      exact ⟨rfl, rfl, hgives⟩
    · rintro ⟨columns, source⟩ t₁ d₁ ⟨rfl, rfl, hgives⟩
      refine (ensures_check (Q := fun inferred t' d' => t' = t₁ ∧ d' = d₁ ∧
        columns = .ok inferred) fun inferred h => ⟨rfl, rfl, h⟩).bind ?_
      rintro inferred t' d' ⟨rfl, rfl, rfl⟩
      exact ensures_pure ⟨rfl, rfl, checkpoint, hc, hgives⟩
  · exact ensures_pure ⟨rfl, rfl, rfl, rfl⟩

theorem ensures_perform (c : RunCommand) : Session.Ensures s (fun _ t' d' =>
    ∃ x, c.Takes s d d' x ∧ t'.output = t.output ++ (c.document x.summary ++ "\n"))
      c.perform t d := by
  refine (ensures_act (Q := fun _ t' d' => t' = t ∧ d' = d) ?_).bind ?_
  · exact Action.ensures_ask trivial ⟨rfl, rfl⟩ fun _ _ => ⟨⟨rfl, rfl⟩, fun _ => ⟨rfl, rfl⟩⟩
  rintro found t' d' ⟨rfl, rfl⟩
  -- anything but a directory ends the session
  rcases found with e | _ | _
  · exact (Session.ensures_throw (Q := fun _ _ _ => False) _).bind fun _ _ _ h => h.elim
  · exact (Session.ensures_throw (Q := fun _ _ _ => False) _).bind fun _ _ _ h => h.elim
  refine c.ensures_source.bind ?_
  rintro ⟨source, inferred⟩ t₁ d₁ ⟨rfl, rfl, hinfers⟩
  refine ensures_tellIf_bind fun messages => ?_
  refine (c.rules.ensures_compile _).bind ?_
  rintro rules t' d' ⟨rfl, rfl, table, htable, hrules⟩
  refine ensures_tellIf_bind fun messages' => ?_
  refine (ensures_perform_gives _ _).bind ?_
  rintro opened t₂ d₂ ⟨rfl, hopened⟩
  refine (ensures_act_gives opened.run).bind ?_
  rintro ⟨summary, ended⟩ t₃ d₃ ⟨rfl, hran⟩
  have hchecked : Session.Ensures s (fun x t₄ d₄ => t₄.output = t₁.output ∧ d₄ = d₃ ∧
      summary = .ok x) (check (inContext "Pipeline run failed") summary)
      { t₁ with messages := messages' } d₃ := ensures_check fun x h => ⟨rfl, rfl, h⟩
  refine hchecked.bind ?_
  rintro summary t₄ d₄ ⟨houtput, rfl, rfl⟩
  refine (ensures_write (Q := fun _ t₅ d₅ => d₅ = d₄ ∧
    t₅.output = t₁.output ++ (c.document summary ++ "\n")) ⟨rfl, houtput ▸ rfl⟩).bind ?_
  rintro _ t₅ d₅ ⟨rfl, houtput⟩
  exact ensures_tell ⟨⟨table, source, inferred, rules, opened, summary, ended⟩,
    ⟨htable, hinfers, hrules, d₂, hopened, hran⟩, houtput⟩

end RunCommand

/-! ## One after the other -/

/-- The redaction of the quarantine that a run leaves, with the rules of that run. -/
def RunCommand.again (c : RunCommand) (output : Option Path) : ReprocessCommand :=
  ⟨c.tablePath, c.rules, output⟩

/-- A rule of a run that failed is selected again if the columns that are found then have its
column; no record is then redacted without a rule that the run selected. -/
theorem selected_again (c : RunCommand) (output : Option Path) (s s' : Surroundings)
    (t t' : Transcript) (d : Disk) :
    Session.Ensures s (fun _ _ d₁ => Session.Ensures s' (fun _ t₂ d₂ =>
      ∃ (a : RunCommand.Course) (b : ReprocessCommand.Reading),
        c.Takes s d d₁ a ∧ (c.again output).Reads d₁ b ∧
        (c.again output).Emits b.rows t' t₂ d₂ ∧
        (a.table = b.table → ∀ rule ∈ a.rules.rules, rule.column ∈ c.rules.columnsOr b.inferred →
          ((FailedRules.ofEvents b.history).contains rule.name = true → rule ∈ b.plan.rules) ∧
          ∀ report ∈ a.summary.batches, rule.name ∈ report.selected →
            a.ended.checkpoint.next ≤ 0x10000000000000000 → rule ∈ b.plan.rules ∧
              ∀ p ∈ b.rows, ∀ names, p.redaction = .applied names → rule.name ∈ names))
      (c.again output).perform t' d₁) c.perform t d := by
  refine c.ensures_perform.mono ?_
  rintro _ t₁ d₁ ⟨a, ha, -⟩
  refine (c.again output).ensures_perform.mono ?_
  rintro _ t₂ d₂ ⟨b, hb, hemits⟩
  refine ⟨a, b, ha, hb, hemits, fun htable rule hrule hcolumn => ?_⟩
  have hrule' : rule ∈ b.rules.rules :=
    RuleSet.mem_of_column ha.rules (htable ▸ hb.rules) hrule hcolumn
  have hselect (hfailed : (FailedRules.ofEvents b.history).contains rule.name = true) :
      rule ∈ b.plan.rules := List.mem_filter.2 ⟨hrule', hfailed⟩
  refine ⟨hselect, fun report hreport hname h64 => ?_⟩
  obtain ⟨hlayout, hkept⟩ := ha.kept
  have hrecords := hkept.onRecord.history h64 rule.name (hkept.selected report hreport _ hname)
  have hdir := hkept.onRecord.inPlace.directories .metrics
  have hsaved := hkept.saved (List.ne_nil_of_mem hreport)
  rw [hlayout] at hrecords hdir
  have hplan := hselect (hrecords.contains hdir (hsaved b.checkpoint (hlayout ▸ hb.checkpoint))
    hb.history)
  refine ⟨hplan, fun p hp names happlied => ?_⟩
  obtain ⟨q, -, rfl⟩ := List.mem_map.1 hp
  rw [Plan.eq_names_of_applied happlied]
  exact List.mem_map_of_mem hplan

/-! ### A case -/

namespace Ragged

/-- A letter, a record without it, and a digit. -/
def records : List Record :=
  [⟨[("c", .string "a")], by decide⟩, .empty, ⟨[("c", .string "1")], by decide⟩]

/-- The rules of a run: those for the columns of the first record. -/
def rules : RuleSet :=
  (RuleSet.compile Runner.sampleTable (schemaColumns none records)).toOption.getD .empty

/-- The batch that the run makes of the records. -/
def batch : BatchOutcome := .after rules .epoch [] "" records

/-- What is read of the batch afterwards: the first quarantined record has no columns. -/
def reading : ReprocessCommand.Reading where
  table := Runner.sampleTable
  checkpoint := .empty
  quarantined := batch.quarantined
  history := batch.events
  rules := .empty

/-- The rule that failed is not selected again, and the digit stays: the column of the rule is
not among those of the first quarantined record. -/
theorem selected_less_again :
    RuleSet.compile Runner.sampleTable (schemaColumns none records) = .ok rules ∧
    RuleSet.compile reading.table (reading.inferred.getD []) = .ok reading.rules ∧
    (∃ rule ∈ rules.rules, (FailedRules.ofEvents reading.history).contains rule.name = true ∧
      rule ∉ reading.plan.rules) ∧
    ∃ q ∈ batch.quarantined,
      (batch.plan.process q).redaction = .applied ["c is a letter"] ∧
      (reading.plan.process q).redaction = .applied [] := by
  have hcompiled : (RuleSet.compile Runner.sampleTable
      (schemaColumns none records)).toOption.isSome = true := by decide +kernel
  obtain ⟨found, hfound⟩ := Option.isSome_iff_exists.1 hcompiled
  have hrules : rules = found := by rw [rules, hfound]; rfl
  have hinferred : reading.inferred.getD [] = [] := by decide +kernel
  have hname : "c is a letter" ∈ rules.names := by decide +kernel
  obtain ⟨rule, hrule, hname⟩ := List.mem_map.1 hname
  have hsecond : batch.quarantined[1]?.isSome = true := by decide +kernel
  obtain ⟨q, hq⟩ := Option.isSome_iff_exists.1 hsecond
  have hfirst : (batch.quarantined[1]?.map fun q => (batch.plan.process q).redaction) =
      some (.applied ["c is a letter"]) := by decide +kernel
  have hagain : (batch.quarantined[1]?.map fun q => (reading.plan.process q).redaction) =
      some (.applied []) := by decide +kernel
  rw [hq] at hfirst hagain
  refine ⟨?_, ?_, ⟨rule, hrule, ?_, List.not_mem_nil⟩, q, List.mem_of_getElem? hq,
    Option.some.inj hfirst, Option.some.inj hagain⟩
  · rw [hrules]
    exact Workload.eq_ok_of_toOption hfound
  · rw [hinferred]
    rfl
  · rw [hname]
    decide +kernel

end Ragged

end CommandLine
end Quarantine
