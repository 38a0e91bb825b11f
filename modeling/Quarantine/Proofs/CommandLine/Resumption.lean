import Quarantine.Proofs.CommandLine.Success
import Quarantine.Proofs.Pipeline.Resumption

/-!
# Runs over an input directory

A run without columns takes those of the first record that is left for it, compiles the rules of
its table for them, and commits the files that are left.  A second run does the same with the
files that came later, by rules for their own first record.

    perform                all that is left is committed by the rules for its first record,
                           or nothing where these cannot be compiled
    once  ~  first, again  the same rows, if the later files begin with the same columns
-/

namespace Quarantine.CommandLine

open Quarantine.Disk Session
open Quarantine.Job hiding outcome outcome_bind_of_outcome

variable {s : Surroundings} {t : Transcript} {d d' : Disk} {table : RuleTable}

theorem RuleChoice.Loads.mono {c : RuleChoice} (h : c.Loads d table)
    (hread : ∀ path content, d.read path = .ok content → d'.read path = .ok content) :
    c.Loads d' table := by
  obtain ⟨choice, columns⟩ := c
  cases choice with
  | none => exact h
  | some path =>
    obtain ⟨content, text, hc, ht, htable⟩ := h
    exact ⟨content, text, hread path content hc, ht, htable⟩

namespace RunCommand

variable {c : RunCommand} {files : List InputFile} {cs : List Commit} {n : Nat}

/-- The disk that a run leaves. -/
def leaves (c : RunCommand) (s : Surroundings) (d : Disk) : Disk :=
  (outcome s c.perform ⟨"", []⟩ d).2

/-! ## One run -/

/-- That a run finds some files, all of which it can read, and an empty root for its tables that
can be made. -/
structure Finds (c : RunCommand) (files : List InputFile) (d : Disk) : Prop where
  offers : Source.Offers c.inputPath files d
  /-- The numbers of batches are 64-bit numbers. -/
  small : files.length ≤ 0x10000000000000000
  empty : EmptyRoot d c.tablePath
  clear : d.Clear c.tablePath.names
  apart : c.tablePath.place ≠ c.inputPath.place

namespace Finds

theorem covers (h : c.Finds files d) : c.layout.Covers files [] d :=
  ⟨Layout.keeps_of_empty h.empty, Layout.exact_nil c.layout d, List.nil_prefix⟩

theorem withheld (h : c.Finds files d) (n : Nat) :
    c.Finds (files.take n) (InputFile.withheld c.inputPath (files.drop n) d) := by
  refine ⟨h.offers.withheld n, ?_, ⟨fun pl hb => ?_, h.empty.way⟩, ⟨fun ns hns content hg => ?_,
    h.clear.short⟩, h.apart⟩
  · exact Nat.le_trans (List.take_sublist n files).length_le h.small
  · exact InputFile.get?_withheld_of_none (h.empty.nothing pl hb)
  · exact h.clear.free ns hns content (InputFile.get?_of_withheld hg)

end Finds

end RunCommand

/-! ### A case -/

namespace TwoFiles

/-- A record with one text. -/
def record (column text : String) : Record := ⟨[(column, .string text)], by simp [Json.Fields.names]⟩

def line (column text : String) : String := "\x7b\"" ++ column ++ "\":\"" ++ text ++ "\"\x7d\n"

def file (name column text : String) : InputFile :=
  ⟨name, (line column text).toUTF8, [record column text]⟩

/-- A file that passes, and one with a number in a column. -/
def files (column : String) : List InputFile :=
  [file "a.ndjson" "x" "ok", file "b.ndjson" column "123-45-6789"]

/-- The disk with these files and nothing else. -/
def disk (column : String) : Disk :=
  ⟨[(["in"], .directory), (["in", "a.ndjson"], .file (line "x" "ok").toUTF8),
    (["in", "b.ndjson"], .file (line column "123-45-6789").toUTF8)], by simp⟩

def command : RunCommand := ⟨⟨"in"⟩, ⟨"t"⟩, ⟨none, []⟩, none, false, true⟩

/-- Whether records are a single one with one text. -/
def isSingle (column text : String) : List Record → Bool
  | [⟨[(name, .string t)], _⟩] => name == column && t == text
  | _ => false

theorem eq_of_isSingle {column text : String} {records : List Record}
    (h : isSingle column text records = true) : records = [record column text] := by
  unfold isSingle at h
  split at h
  · rw [Bool.and_eq_true, beq_iff_eq, beq_iff_eq] at h
    obtain ⟨rfl, rfl⟩ := h
    rfl
  · cases h

theorem parses_file {name column text : String}
    (h : (Rows.records (Path.join ⟨"in"⟩ name) (line column text)).toOption.any
      (isSingle column text) = true) : (file name column text).Parses command.inputPath := by
  refine ⟨line column text, Rows.fromUTF8?_toUTF8 _, ?_⟩
  obtain ⟨records, hrecords, hsingle⟩ := (Option.any_eq_true _ _).1 h
  rw [eq_of_isSingle hsingle] at hrecords
  exact Workload.eq_ok_of_toOption hrecords

theorem place_input : command.inputPath.place = ["in"] := by rfl

theorem children_disk {column : String} (h : column = "x" ∨ column = "y") :
    (disk column).children ["in"] = [("a.ndjson", .file), ("b.ndjson", .file)] := by
  rcases h with rfl | rfl
  all_goals
    refine (List.mergeSort_of_pairwise ?_).trans ?_
    · decide
    · rfl

theorem offers {column : String} (h : column = "x" ∨ column = "y") :
    Source.Offers command.inputPath (files column) (disk column) := by
  have hwanted : Source.wanted [("a.ndjson", .file), ("b.ndjson", .file)] =
      ["a.ndjson", "b.ndjson"] := by decide +kernel
  have hdir : (disk column).HasDirectory command.inputPath := by
    refine hasDirectory_iff.2 (Workload.eq_ok_of_toOption ?_)
    rcases h with rfl | rfl <;> decide +kernel
  have hfirst : (disk column).read (command.inputPath.join "a.ndjson") =
      .ok (line "x" "ok").toUTF8 := by
    refine Workload.eq_ok_of_toOption ?_
    rcases h with rfl | rfl <;> decide +kernel
  have hsecond : (disk column).read (command.inputPath.join "b.ndjson") =
      .ok (line column "123-45-6789").toUTF8 := by
    refine Workload.eq_ok_of_toOption ?_
    rcases h with rfl | rfl <;> decide +kernel
  have hparses : (file "b.ndjson" column "123-45-6789").Parses command.inputPath := by
    refine parses_file ?_
    rcases h with rfl | rfl <;> decide +kernel
  refine ⟨hdir, ?_, ?_, ?_, ?_⟩
  · rw [place_input, children_disk h, hwanted]
    rfl
  · refine List.forall_mem_cons.2 ⟨?_, List.forall_mem_singleton.2 ?_⟩
    · show Path.IsName "a.ndjson"
      decide
    · show Path.IsName "b.ndjson"
      decide
  · exact List.forall_mem_cons.2 ⟨hfirst, List.forall_mem_singleton.2 hsecond⟩
  · refine List.forall_mem_cons.2 ⟨parses_file ?_, List.forall_mem_singleton.2 hparses⟩
    decide +kernel

/-- The standard rules for a column. -/
@[irreducible]
def rulesOf (column : String) : RuleSet :=
  (RuleSet.compile .standard [column]).toOption.getD .empty

theorem compiled {column : String} (h : column = "x" ∨ column = "y") :
    RuleSet.compile .standard [column] = .ok (rulesOf column) := by
  have hfound : (RuleSet.compile .standard [column]).toOption.isSome = true := by
    rcases h with rfl | rfl <;> decide +kernel
  obtain ⟨rules, hrules⟩ := Option.isSome_iff_exists.1 hfound
  refine Workload.eq_ok_of_toOption ?_
  rw [rulesOf, hrules]
  rfl

theorem storable : ∀ r ∈ [record "y" "123-45-6789"], r.Storable := by
  intro r hr
  rw [List.mem_singleton.1 hr]
  refine Record.storable_iff.2 fun f hf => ?_
  rw [List.mem_singleton.1 hf]
  exact ⟨rfl, rfl⟩

end TwoFiles

end Quarantine.CommandLine
