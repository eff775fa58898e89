import Diagnostics.Proofs.Cim.Answer
import Diagnostics.Proofs.Text.Trimmed

/-!
# What is shown of a failed query

PowerShell may end badly and say why, to its error output or to its ordinary output. The detail of
the failure is to show it: the first line of the one or the other, without the blanks before it
(`ShowsOutput`).

The error output is passed over if it is empty, and only then. If it holds a newline and nothing
else, it is still the one that is looked at, nothing is found in it, and what the ordinary output
says is not shown. That is the one case in which the detail does not show the output
(`showsOutput_detail_iff`).
-/

set_option autoImplicit false

namespace Diagnostics

open Diagnostics.Action

namespace Cim

/-- A line is what is shown of a text: the first line of what is left of it without the blanks at
both of its ends. It begins with a character of the text that is not blank. -/
structure IsShown (text line : Text) : Prop where
  first : ∃ core, Text.IsTrimmed Text.isBlank text core ∧ Text.IsFirstLine core line
  begins : ∃ c ∈ text, line.head? = some c ∧ Text.isBlank c = false

/-- A detail shows what a program has said: to its error output, or to its ordinary output if
nothing is there but blanks. -/
structure ShowsOutput (out err detail : Text) : Prop where
  error : err.allBlank = false → IsShown err detail
  output : err.allBlank = true → out.allBlank = false → IsShown out detail
  nothing : err.allBlank = true → out.allBlank = true → detail = "no output"

/-! ## One output -/

/-- What is shown of one output. -/
def shown (text : Text) : Text :=
  match text.strip with
  | [] => "no output"
  | s => s.firstLine

theorem detail_eq (stdout stderr : List UInt8) :
    detail stdout stderr = if printed stderr = [] then shown (printed stdout)
      else shown (printed stderr) := by
  unfold detail shown
  cases printed stderr <;> rfl

theorem shown_of_allBlank {text : Text} (h : text.allBlank = true) : shown text = "no output" := by
  unfold shown
  rw [Text.strip_of_allBlank h]

theorem isShown_shown {text : Text} (h : text.allBlank = false) : IsShown text (shown text) := by
  obtain ⟨c, hc, hsolid⟩ := Text.exists_not_isBlank h
  have htrimmed : Text.IsTrimmed Text.isBlank text text.strip := Text.isTrimmed_trimBy ..
  obtain ⟨first, rest, hstrip, hfirst, hmem⟩ := htrimmed.exists_cons hc hsolid
  have hshown : shown text = Text.firstLine (first :: rest) := by
    unfold shown
    rw [hstrip]
  have hline := Text.isFirstLine_firstLine (first :: rest)
  obtain ⟨others, hothers⟩ := hline.exists_cons hfirst
  rw [hshown]
  exact ⟨⟨_, hstrip ▸ htrimmed, hline⟩, first, hmem, by rw [hothers]; rfl, hfirst⟩

theorem IsShown.not_allBlank {text line : Text} (h : IsShown text line) :
    text.allBlank = false := by
  obtain ⟨c, hc, -, hsolid⟩ := h.begins
  exact Bool.eq_false_iff.mpr fun hblank =>
    absurd (Text.allBlank_iff.mp hblank c hc) (by simp [hsolid])

/-- There is one line that is shown of a text. -/
theorem IsShown.eq_shown {text line : Text} (h : IsShown text line) : line = shown text := by
  obtain ⟨core, htrimmed, hline⟩ := h.first
  obtain ⟨core', htrimmed', hline'⟩ := (isShown_shown h.not_allBlank).first
  rw [Text.isTrimmed_iff] at htrimmed htrimmed'
  rw [Text.isFirstLine_iff] at hline hline'
  rw [hline, hline', htrimmed, htrimmed']

/-! ## Both outputs -/

/-- **What a detail must be to show the output.** -/
theorem showsOutput_iff {out err line : Text} :
    ShowsOutput out err line ↔ line = shown (if err.allBlank then out else err) := by
  constructor
  · intro h
    cases herr : err.allBlank with
    | false => exact (h.error herr).eq_shown
    | true =>
      cases hout : out.allBlank with
      | false => exact (h.output herr hout).eq_shown
      | true => exact (h.nothing herr hout).trans (shown_of_allBlank hout).symm
  · rintro rfl
    constructor
    case error =>
      intro herr
      rw [herr]
      exact isShown_shown herr
    case output =>
      intro herr hout
      rw [herr]
      exact isShown_shown hout
    case nothing =>
      intro herr hout
      rw [herr]
      exact shown_of_allBlank hout

/-- **When the detail shows the output**: unless the error output is blank and not empty and the
ordinary output has something to be shown. -/
theorem showsOutput_detail_iff (stdout stderr : List UInt8) :
    ShowsOutput (printed stdout) (printed stderr) (detail stdout stderr) ↔
      printed stderr = [] ∨ (printed stderr).allBlank = false ∨ (printed stdout).allBlank = true ∨
        IsShown (printed stdout) "no output" := by
  rw [showsOutput_iff, detail_eq]
  generalize printed stderr = err
  generalize printed stdout = out
  by_cases hempty : err = []
  · subst hempty
    simp [Text.allBlank]
  · cases herr : err.allBlank with
    | false => simp [hempty]
    | true =>
      rw [if_neg hempty, shown_of_allBlank herr]
      cases hout : out.allBlank with
      | true => simp [shown_of_allBlank hout]
      | false =>
        have hline : IsShown out "no output" ↔ ("no output" : Text) = shown out := by
          constructor
          · exact IsShown.eq_shown
          · intro heq
            rw [heq]
            exact isShown_shown hout
        simp [hempty, hline]

section

variable {powershell className namespaceName out err : Text}

/-- **What is shown of a failed query.** A query whose program ends in time and badly is a failed
query, and its words end in a detail. That shows the output that there was, unless nothing but
blanks are in an error output that is not empty. Then nothing is shown, whatever the ordinary output
says. -/
theorem failed_query_shows_output {timeout : Option Binary64} {s : Session} {status : Int}
    {stdout stderr : List UInt8}
    (hended : (s.host.start (argv powershell className namespaceName) timeout .capture).1 =
      .ok (.exited status stdout stderr))
    (hbad : status ≠ 0) (hout : Says stdout out) (herr : Says stderr err) :
    ∃ fault detail, (settle (ask powershell timeout className namespaceName) s).1 =
        .error (.query fault) ∧
      fault = .exitStatus className namespaceName status detail ∧
      detail <:+ fault.message ∧
      (ShowsOutput out err detail ↔
        err = [] ∨ err.allBlank = false ∨ out.allBlank = true ∨ IsShown out "no output") ∧
      (err ≠ [] → err.allBlank = true → detail = "no output") := by
  rw [says_iff.mp hout, says_iff.mp herr]
  refine ⟨_, detail stdout stderr, ?_, rfl, ?_, showsOutput_detail_iff _ _, ?_⟩
  · unfold ask
    rw [settle_bind, settle_attempt, settle_start, hended]
    dsimp only
    rw [if_neg hbad]
    rfl
  · exact List.suffix_append _ _
  · intro hempty hblank
    rw [detail_eq, if_neg hempty, shown_of_allBlank hblank]

end

namespace Example

/-- PowerShell ends with a status of one. -/
def failing (stdout stderr : List UInt8) : Session where
  host :=
    { disk := ⟨.directory [], [], []⟩
      programs := fun name =>
        if name = "powershell" then some fun _ => .completed ⟨false, [], stdout, stderr, 0, 1⟩
        else none
      started := fun _ => 0
      answers := fun _ _ => .text ""
      asked := fun _ => 0
      cancelled := false
      calls := [] }
  failures := []

/-- What it comes to that a letter is printed to the ordinary output and, between blanks and a line
that is cut off, a word to the error output. -/
def sayingNo : Session :=
  failing [0x78] [0x0A, 0x20, 0x4E, 0x6F, 0x0D, 0x0A, 0x41]

end Example

/-- The error output begins with blanks and goes on after its first line. That line is shown. -/
theorem failed_query_shows_error :
    ∃ fault detail, (settle (ask "powershell" none "C" "n") Example.sayingNo).1 =
        .error (.query fault) ∧
      fault.message = "Query [C] in n failed with exit code 1: No" ∧
      ShowsOutput "x" "\n No\nA" detail ∧ detail = "No" := by
  have hended : (Example.sayingNo.host.start (argv "powershell" "C" "n") none .capture).1 =
      .ok (.exited 1 [0x78] [0x0A, 0x20, 0x4E, 0x6F, 0x0D, 0x0A, 0x41]) := by
    decide +kernel
  have hout : Says [0x78] "x" := says_iff.mpr (by decide +kernel)
  have herr : Says [0x0A, 0x20, 0x4E, 0x6F, 0x0D, 0x0A, 0x41] "\n No\nA" :=
    says_iff.mpr (by decide +kernel)
  obtain ⟨fault, detail, hresult, hfault, -, hiff, -⟩ :=
    failed_query_shows_output hended (by decide) hout herr
  have hshows : ShowsOutput "x" "\n No\nA" detail := hiff.mpr (Or.inr (Or.inl (by decide)))
  have hdetail : detail = "No" := by
    rw [showsOutput_iff.mp hshows]
    decide
  have hmessage : fault.message = "Query [C] in n failed with exit code 1: No" := by
    rw [hfault, hdetail]
    decide +kernel
  exact ⟨fault, detail, hresult, hmessage, hshows, hdetail⟩

/-- Nothing but a newline is in the error output, and nothing is shown of the ordinary output. -/
theorem failed_query_hides_output :
    Says [0x78] "x" ∧ Says [0x0A] "\n" ∧
      (settle (ask "powershell" none "C" "n") (Example.failing [0x78] [0x0A])).1 =
        .error (.query (.exitStatus "C" "n" 1 "no output")) ∧
      ¬ ShowsOutput "x" "\n" "no output" := by
  refine ⟨says_iff.mpr (by decide +kernel), says_iff.mpr (by decide +kernel), by decide +kernel, ?_⟩
  intro hshows
  have hline : ("no output" : Text) = "x" :=
    (hshows.output (by decide) (by decide)).eq_shown
  exact absurd hline (by decide)

end Cim

end Diagnostics
