import Foldbook.Remote.Connection
import Mathlib.Data.List.Nodup

/-!
# Contacts

What the host of a session sees of it are the programs that are started for
it: a master, commands, and the request to exit.  `Contact.of?` reads them off
the command lines, in which the socket of the master names the session.

A list of contacts, the last one first, is `Lawful` if a master is only
started under a new name and to a destination without a live session, and if
commands and requests to exit only go to live sessions.

* `Lawful.live_nodup`: there is at most one live session for a destination.
* `Lawful.course`: a session begins with its master and then has commands,
  until it is asked to exit; nothing follows.
-/

namespace Foldbook

/-- Whether a program runs and succeeds. -/
def Conduct.succeeds : Conduct → Bool
  | .runs status _ _ _ => status == 0
  | _ => false

/-- A program that is started for a session. -/
inductive Contact where
  | master (socket destination : String) (connected : Bool)
  | command (socket destination line : String)
  | exit (socket destination : String)
  deriving DecidableEq, Repr

namespace Contact

/-- The name of the session. -/
def socket : Contact → String
  | .master socket _ _ | .command socket _ _ | .exit socket _ => socket

/-- The contact that the arguments of a program make which then behaves as given. -/
def ofArguments? (conduct : Conduct) : List String → Option Contact
  | ["-S", socket, "-O", "exit", destination] => some (.exit socket destination)
  | ["-S", socket, destination, line] => some (.command socket destination line)
  | "-E" :: _ :: "-S" :: socket :: rest =>
    some (.master socket (rest.getLastD "") conduct.succeeds)
  | _ => none

/-- The contact that a command line makes. -/
def of? (shell : String) (conduct : Conduct) : List String → Option Contact
  | [] => none
  | program :: args => if program = shell then ofArguments? conduct args else none

/-- The contacts of one session. -/
def ofSession (socket : String) (contacts : List Contact) : List Contact :=
  contacts.filter fun c => c.socket == socket

/-- The sessions that are live behind the contacts, with their destinations. -/
def live : List Contact → List (String × String)
  | [] => []
  | .master socket destination connected :: earlier =>
    if connected then (socket, destination) :: live earlier else live earlier
  | .command _ _ _ :: earlier => live earlier
  | .exit socket _ :: earlier => (live earlier).filter fun session => session.1 != socket

/-- The contacts, last first, are such as there should be. -/
inductive Lawful : List Contact → Prop where
  | nil : Lawful []
  | master {socket destination : String} {connected : Bool} {earlier : List Contact}
      (before : Lawful earlier) (fresh : ∀ c ∈ earlier, c.socket ≠ socket)
      (free : destination ∉ (live earlier).map Prod.snd) :
      Lawful (.master socket destination connected :: earlier)
  | command {socket destination line : String} {earlier : List Contact} (before : Lawful earlier)
      (lives : (socket, destination) ∈ live earlier) :
      Lawful (.command socket destination line :: earlier)
  | exit {socket destination : String} {earlier : List Contact} (before : Lawful earlier)
      (lives : (socket, destination) ∈ live earlier) :
      Lawful (.exit socket destination :: earlier)

/-- What has become of a session. -/
inductive Course (socket : String) (contacts : List Contact) : Prop where
  | unknown (own : ofSession socket contacts = [])
      (dead : ∀ destination, (socket, destination) ∉ live contacts)
  | refused (destination : String)
      (own : ofSession socket contacts = [.master socket destination false])
      (dead : ∀ destination, (socket, destination) ∉ live contacts)
  | lives (destination : String) (lines : List String)
      (own : ofSession socket contacts =
        lines.map (.command socket destination) ++ [.master socket destination true])
      (lives : (socket, destination) ∈ live contacts)
  | ended (destination : String) (lines : List String)
      (own : ofSession socket contacts =
        .exit socket destination :: lines.map (.command socket destination) ++
          [.master socket destination true])
      (dead : ∀ destination, (socket, destination) ∉ live contacts)

variable {socket destination : String} {contacts earlier : List Contact}

/-! ## Live sessions -/

theorem mem_of_mem_live {session : String × String} (h : session ∈ live contacts) :
    ∃ c ∈ contacts, c.socket = session.1 := by
  induction contacts with
  | nil => exact absurd h List.not_mem_nil
  | cons c earlier ih =>
    have hlater : session ∈ live earlier → ∃ d ∈ c :: earlier, d.socket = session.1 := by
      intro hsession
      obtain ⟨d, hd, hsocket⟩ := ih hsession
      exact ⟨d, List.mem_cons_of_mem c hd, hsocket⟩
    cases c with
    | master socket destination connected =>
      rw [live] at h
      split at h
      · rcases List.mem_cons.mp h with rfl | hsession
        · exact ⟨_, List.mem_cons_self, rfl⟩
        · exact hlater hsession
      · exact hlater h
    | command => exact hlater h
    | exit => exact hlater (List.mem_of_mem_filter h)

namespace Lawful

/-- A destination has at most one live session. -/
theorem live_nodup (h : Lawful contacts) : ((live contacts).map Prod.snd).Nodup := by
  induction h with
  | nil => exact List.nodup_nil
  | @master socket destination connected earlier _ _ free ih =>
    rw [live]
    split
    · exact List.nodup_cons.mpr ⟨free, ih⟩
    · exact ih
  | command _ _ ih => exact ih
  | exit _ _ ih => exact (List.filter_sublist.map Prod.snd).nodup ih

/-- A name belongs to at most one live session. -/
theorem sockets_nodup (h : Lawful contacts) : ((live contacts).map Prod.fst).Nodup := by
  induction h with
  | nil => exact List.nodup_nil
  | @master socket destination connected earlier _ fresh _ ih =>
    rw [live]
    split
    · refine List.nodup_cons.mpr ⟨fun hmem => ?_, ih⟩
      obtain ⟨session, hsession, hsocket⟩ := List.mem_map.mp hmem
      obtain ⟨c, hc, hcsocket⟩ := mem_of_mem_live hsession
      exact fresh c hc (hcsocket.trans hsocket)
    · exact ih
  | command _ _ ih => exact ih
  | exit _ _ ih => exact (List.filter_sublist.map Prod.fst).nodup ih

/-- So was every earlier list of contacts. -/
theorem of_suffix (h : Lawful contacts) (hsuffix : earlier <:+ contacts) : Lawful earlier := by
  induction h with
  | nil => exact List.suffix_nil.mp hsuffix ▸ .nil
  | master before fresh free ih =>
    rcases List.suffix_cons_iff.mp hsuffix with rfl | hsuffix
    · exact .master before fresh free
    · exact ih hsuffix
  | command before lives ih =>
    rcases List.suffix_cons_iff.mp hsuffix with rfl | hsuffix
    · exact .command before lives
    · exact ih hsuffix
  | exit before lives ih =>
    rcases List.suffix_cons_iff.mp hsuffix with rfl | hsuffix
    · exact .exit before lives
    · exact ih hsuffix

end Lawful

/-! ## The course of a session -/

theorem ofSession_cons_self (c : Contact) (earlier : List Contact) :
    ofSession c.socket (c :: earlier) = c :: ofSession c.socket earlier :=
  List.filter_cons_of_pos (by simp)

theorem ofSession_cons_of_ne (c : Contact) (earlier : List Contact) (h : c.socket ≠ socket) :
    ofSession socket (c :: earlier) = ofSession socket earlier :=
  List.filter_cons_of_neg (by simpa using h)

/-- Contacts of other sessions do not matter. -/
theorem Course.congr (h : Course socket earlier)
    (hown : ofSession socket contacts = ofSession socket earlier)
    (hlive : ∀ destination, (socket, destination) ∈ live contacts ↔
      (socket, destination) ∈ live earlier) : Course socket contacts := by
  cases h with
  | unknown own dead =>
    exact .unknown (hown.trans own) fun destination hd => dead destination ((hlive _).mp hd)
  | refused destination own dead =>
    exact .refused destination (hown.trans own) fun d hd => dead d ((hlive d).mp hd)
  | lives destination lines own lives =>
    exact .lives destination lines (hown.trans own) ((hlive destination).mpr lives)
  | ended destination lines own dead =>
    exact .ended destination lines (hown.trans own) fun d hd => dead d ((hlive d).mp hd)

namespace Lawful

/-- A live session has had its master and commands. -/
theorem ofSession_of_lives (h : Lawful contacts) (hcourse : Course socket contacts)
    (hlives : (socket, destination) ∈ live contacts) :
    ∃ lines : List String, ofSession socket contacts =
      lines.map (.command socket destination) ++ [.master socket destination true] := by
  cases hcourse with
  | unknown _ dead => exact absurd hlives (dead destination)
  | refused _ _ dead => exact absurd hlives (dead destination)
  | ended _ _ _ dead => exact absurd hlives (dead destination)
  | lives other lines own lives =>
    obtain ⟨-, rfl⟩ : socket = socket ∧ other = destination :=
      Prod.mk.inj (List.inj_on_of_nodup_map h.sockets_nodup lives hlives rfl)
    exact ⟨lines, own⟩

/-- A session has its master first and then commands, until it is asked to exit. -/
theorem course (h : Lawful contacts) (socket : String) : Course socket contacts := by
  induction h with
  | nil => exact .unknown rfl fun _ => List.not_mem_nil
  | @master name destination connected earlier before fresh free ih =>
    by_cases hname : name = socket
    · subst hname
      have hnone : ofSession name earlier = [] :=
        List.filter_eq_nil_iff.mpr fun c hc => by simpa using fresh c hc
      have hdead : ∀ d, (name, d) ∉ live earlier := by
        intro d hd
        obtain ⟨c, hc, hsocket⟩ := mem_of_mem_live hd
        exact fresh c hc hsocket
      have hown : ofSession name (.master name destination connected :: earlier) =
          [.master name destination connected] := by
        rw [← hnone]
        exact ofSession_cons_self (.master name destination connected) earlier
      cases connected with
      | false => exact .refused destination hown hdead
      | true => exact .lives destination [] hown List.mem_cons_self
    · have hown := ofSession_cons_of_ne (.master name destination connected) earlier hname
      refine ih.congr hown fun d => ?_
      rw [live]
      split
      · rw [List.mem_cons, or_iff_right fun hsame => hname (Prod.mk.inj hsame).1.symm]
      · exact Iff.rfl
  | @command name destination line earlier before lives ih =>
    by_cases hname : name = socket
    · subst hname
      obtain ⟨lines, hown⟩ := before.ofSession_of_lives ih lives
      refine .lives destination (line :: lines) ?_ lives
      rw [List.map_cons, List.cons_append, ← hown]
      exact ofSession_cons_self (.command name destination line) earlier
    · have hown := ofSession_cons_of_ne (.command name destination line) earlier hname
      exact ih.congr hown fun d => Iff.rfl
  | @exit name destination earlier before lives ih =>
    by_cases hname : name = socket
    · subst hname
      obtain ⟨lines, hown⟩ := before.ofSession_of_lives ih lives
      refine .ended destination lines ?_ fun d hd => ?_
      · rw [List.cons_append, ← hown]
        exact ofSession_cons_self (.exit name destination) earlier
      · exact absurd (List.mem_filter.mp hd).2 (by simp)
    · have hown := ofSession_cons_of_ne (.exit name destination) earlier hname
      refine ih.congr hown fun d => ?_
      rw [live, List.mem_filter, and_iff_left]
      exact bne_iff_ne.mpr fun hsame => hname hsame.symm

/-- Where no session is live, every one whose master has connected has been asked to exit. -/
theorem ended_of_live_eq_nil (h : Lawful contacts) (hlive : live contacts = [])
    (hmaster : .master socket destination true ∈ contacts) :
    ∃ lines : List String, ofSession socket contacts =
      .exit socket destination :: lines.map (.command socket destination) ++
        [.master socket destination true] := by
  have hmem : .master socket destination true ∈ ofSession socket contacts :=
    List.mem_filter.mpr ⟨hmaster, by simp [Contact.socket]⟩
  cases h.course socket with
  | unknown own _ =>
    rw [own] at hmem
    exact absurd hmem List.not_mem_nil
  | refused _ own _ =>
    rw [own] at hmem
    simp at hmem
  | lives _ _ _ lives =>
    rw [hlive] at lives
    exact absurd lives List.not_mem_nil
  | ended other lines own _ =>
    rw [own] at hmem
    obtain rfl : destination = other := by simpa using hmem
    exact ⟨lines, own⟩

end Lawful

end Contact

end Foldbook
