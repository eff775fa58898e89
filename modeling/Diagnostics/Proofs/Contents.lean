import Diagnostics.Proofs.Disk.Contents
import Diagnostics.Proofs.FanOut.Schedule
import Diagnostics.Proofs.Territory

/-!
# Machines that are the same but for what a file holds

A machine with another disk is the same machine otherwise. If the disks are the same but for what
one file holds, every request has one answer on both machines and leaves machines of which that can
be said again (`Session.answers_sameBut`). So what stands in the file is nothing to any work, and
nothing to groups that run at the same time.
-/

set_option autoImplicit false

namespace Diagnostics

open Disk

/-- Two machines that are the same but for what the file at a place holds. -/
def Host.SameBut (place : Location) (host host' : Host) : Prop :=
  ∃ disk, host.disk.SameBut place disk ∧ host' = { host with disk := disk }

/-- Two sessions on machines that are the same but for what the file at a place holds. -/
def Session.SameBut (place : Location) (s s' : Session) : Prop :=
  ∃ disk, s.host.disk.SameBut place disk ∧ s' = s.withDisk disk

variable {place : Location}

namespace Host

variable {host host' : Host} {disk : Disk}

/-- The same machine with other octets in the file at a place. -/
def withFile (host : Host) (place : Location) (octets : List UInt8) : Host :=
  { host with disk := host.disk.put place (.file octets) }

theorem sameBut_withFile {old : List UInt8} (hat : host.disk.top.at? place = some (.file old))
    (octets : List UInt8) : host.SameBut place (host.withFile place octets) :=
  ⟨_, Or.inr ⟨old, octets, hat, rfl⟩, rfl⟩

theorem SameBut.symm (h : host.SameBut place host') : host'.SameBut place host := by
  obtain ⟨disk, hdisk, rfl⟩ := h
  exact ⟨host.disk, hdisk.symm, rfl⟩

/-- A program does the same, whatever the file holds that it may write to. -/
theorem perform_sameBut (h : host.disk.SameBut place disk) (argv : List Text)
    (timeout : Option Binary64) (redirect : Redirect) (c : Completion) :
    (host.perform argv timeout redirect c).1 =
        ({ host with disk := disk }.perform argv timeout redirect c).1 ∧
      (host.perform argv timeout redirect c).2.SameBut place
        ({ host with disk := disk }.perform argv timeout redirect c).2 := by
  have hlike := isLikeness_sameBut place
  obtain ⟨hwrote, hleft⟩ := hlike.writeArguments argv c.writes h
  have htaken := fun target => hlike.writeAt target (c.stdout ++ c.stderr) hleft
  unfold perform
  dsimp only at htaken ⊢
  rw [← hwrote]
  cases redirect with
  | file target =>
    obtain ⟨htaken, hlast⟩ := htaken target
    dsimp only
    rw [← htaken]
    split_ifs
    all_goals exact ⟨rfl, _, hlast, rfl⟩
  | _ =>
    dsimp only
    split_ifs
    all_goals exact ⟨rfl, _, hleft, rfl⟩

theorem start_sameBut (h : host.disk.SameBut place disk) (argv : List Text)
    (timeout : Option Binary64) (redirect : Redirect) :
    (host.start argv timeout redirect).1 =
        ({ host with disk := disk }.start argv timeout redirect).1 ∧
      (host.start argv timeout redirect).2.SameBut place
        ({ host with disk := disk }.start argv timeout redirect).2 := by
  by_cases hwords : WordsHaveOctets argv
  · have hnext : ({ host with disk := disk } : Host).launch? (argv.headD "") =
        host.launch? (argv.headD "") := rfl
    have hlimit : ({ host with disk := disk } : Host).limitError? timeout redirect =
        host.limitError? timeout redirect := by
      cases redirect <;> rfl
    rw [start_of_launch? _ _ _ hwords, start_of_launch? _ _ _ hwords, hnext, hlimit]
    split
    · exact ⟨rfl, disk, h, rfl⟩
    · exact ⟨rfl, disk, h, rfl⟩
    · split
      · exact ⟨rfl, disk, h, rfl⟩
      · let started : Host :=
          { host.note (.run argv timeout redirect.channel) with
            started := bump host.started (argv.headD "") }
        exact @perform_sameBut place started disk h argv timeout redirect _
  · obtain ⟨fault, hfault⟩ := exists_argvFault? hwords
    rw [start_of_argvFault? _ _ _ hfault, start_of_argvFault? _ _ _ hfault]
    exact ⟨rfl, disk, h, rfl⟩

theorem ask_sameBut (h : host.disk.SameBut place disk) (className namespaceName : Text) :
    (host.ask className namespaceName).1 =
        ({ host with disk := disk }.ask className namespaceName).1 ∧
      (host.ask className namespaceName).2.SameBut place
        ({ host with disk := disk }.ask className namespaceName).2 := by
  unfold ask
  dsimp only
  cases host.answers className (host.asked className)
  all_goals exact ⟨rfl, disk, h, rfl⟩

end Host

theorem Host.SameBut.session {host host' : Host} (h : host.SameBut place host')
    (failures : List Failure) : Session.SameBut place ⟨host, failures⟩ ⟨host', failures⟩ := by
  obtain ⟨disk, hdisk, rfl⟩ := h
  exact ⟨disk, hdisk, rfl⟩

theorem Session.SameBut.symm {s s' : Session} (h : s.SameBut place s') : s'.SameBut place s := by
  obtain ⟨disk, hdisk, rfl⟩ := h
  exact ⟨s.host.disk, hdisk.symm, rfl⟩

theorem Session.SameBut.host {s s' : Session} (h : s.SameBut place s') :
    s.host.SameBut place s'.host := by
  obtain ⟨disk, hdisk, rfl⟩ := h
  exact ⟨disk, hdisk, rfl⟩

theorem Session.SameBut.failures {s s' : Session} (h : s.SameBut place s') :
    s.failures = s'.failures := by
  obtain ⟨disk, -, rfl⟩ := h
  rfl

/-- **No request can tell machines apart that are the same but for what a file holds.** -/
theorem Session.answers_sameBut (place : Location) :
    Session.Answers (fun _ => True) (Session.SameBut place) := by
  have hlike := isLikeness_sameBut place
  refine ⟨?_, fun _ => trivial⟩
  rintro s _ r - ⟨disk, h, rfl⟩
  cases r with
  | openFile path =>
    dsimp only [answer, withDisk_disk]
    rcases hlike.openForWriting h path with
      ⟨e, hrefused, hrefused'⟩ | ⟨target, left, left', hopened, hopened', hleft⟩
    · rw [hrefused, hrefused']
      exact ⟨rfl, disk, h, rfl⟩
    · rw [hopened, hopened']
      exact ⟨rfl, left', hleft, rfl⟩
  | closeFile target octets =>
    obtain ⟨htaken, hleft⟩ := hlike.flushAt target octets h
    exact ⟨htaken, _, hleft, rfl⟩
  | ensureDirectories path =>
    obtain ⟨hmade, hleft⟩ := hlike.ensureDirectories path h
    exact ⟨congrArg (Except.mapError DiskError.toFault) hmade, _, hleft, rfl⟩
  | collect roots =>
    exact ⟨congrArg (Except.mapError DiskError.toFault) (h.collect roots), disk, h, rfl⟩
  | start argv timeout redirect =>
    obtain ⟨hended, left, hleft, hhost⟩ := Host.start_sameBut h argv timeout redirect
    exact ⟨hended, left, hleft, congrArg (Session.mk · s.failures) hhost⟩
  | query className namespaceName =>
    obtain ⟨hanswer, left, hleft, hhost⟩ := Host.ask_sameBut h className namespaceName
    exact ⟨hanswer, left, hleft, congrArg (Session.mk · s.failures) hhost⟩
  | wait seconds => exact ⟨rfl, disk, h, rfl⟩
  | record failure => exact ⟨rfl, disk, h, rfl⟩
  | recorded => exact ⟨rfl, disk, h, rfl⟩

end Diagnostics
