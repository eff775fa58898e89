import Diagnostics.Proofs.Disk.Prepared
import Diagnostics.Proofs.Disk.Territory
import Diagnostics.Report

/-!
# Writing the report

On every disk of a run the report is a file of the staging directory like any artifact: the
directory is there, so nothing has to be made, and what is written is the file of the report's name,
and no other.
-/

set_option autoImplicit false

namespace Diagnostics

open Disk

variable {base : Disk} {staging : Path} {home : Location} {names : FileName → Prop}

namespace RunReport

theorem isBareName_fileName : IsBareName (fileName : Text) := by
  unfold IsBareName
  decide

/-- The report's file name has one spelling. -/
theorem eq_fileName_of_encodeName {output : Text} {name : FileName}
    (hname : Text.Utf8.encodeName output = .ok name)
    (hreport : Text.Utf8.encodeName (fileName : Text) = .ok name) : output = fileName := by
  have hascii : ∀ b ∈ (fileName : Text).flatMap Text.Utf8.nameOctetsOf, b.toNat < 0x80 := by
    decide +kernel
  rw [(Text.Utf8.encodeName_eq_ok_iff.mp hreport).2] at hascii
  exact Text.Utf8.eq_of_encodeName_ascii hascii hname hreport

/-- The report's file is the only one that writing a report depends on and writes to. -/
theorem keepsTo_write (hempty : base.EmptyAt staging home) (report : RunReport)
    (hnames : ∀ name, Text.Utf8.encodeName (fileName : Text) = .ok name → names name) :
    base.KeepsTo home names (report.write (staging.child fileName)) := by
  have hmade : ∀ entries, (base.withEntries home entries).ensureDirectories
      (staging.child fileName).parent = (.ok (), base.withEntries home entries) := by
    intro entries
    rw [Path.parent_child]
    exact ensureDirectories_of_located (hempty.located_withEntries entries)
      ⟨entries, Node.at?_withEntries_self hempty.empty⟩
  intro entries _
  unfold write
  rcases openForWriting_artifact hempty isBareName_fileName with
    ⟨e, hrefused⟩ | ⟨name, hname, hopened⟩
  all_goals rw [isBareName_fileName.join_eq_child] at *
  · refine ⟨.error e, none, (fun _ hmem => nomatch hmem), fun others hothers _ => ?_⟩
    rw [hmade]
    dsimp only
    rw [hrefused others hothers]
    rfl
  · -- The file is empty once it was opened, and holds the document if that has octets.
    cases hencode : Text.Utf8.encode report.document.write with
    | error e =>
      refine ⟨.error (.unencodable e), some (name, []), ?_, fun others hothers _ => ?_⟩
      · rintro written ⟨⟩
        exact hnames name hname
      · rw [hmade]
        dsimp only
        rw [hopened others hothers]
        rfl
    | ok octets =>
      refine ⟨.ok (), some (name, octets), ?_, fun others hothers _ => ?_⟩
      · rintro written ⟨⟩
        exact hnames name hname
      · rw [hmade]
        dsimp only
        rw [hopened others hothers]
        dsimp only
        rw [flushAt_entry hempty (Node.entry?_setEntry_self name (.file []) others),
          Node.setEntry_setEntry]
        rfl

end RunReport

end Diagnostics
