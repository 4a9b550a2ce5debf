import Megaraid.Device.Controller
import Megaraid.Foundation.Monitor

/-!
# The dialogue with the kernel

A tool opens the block device, asks it for the host number, closes it, opens the
ioctl node, sends its commands there and closes it. `Session` is where a run
stands in this dialogue and `kernel` the monitor of it. What the monitor means
for the open files is `HandlesFiles`, which does not mention it.
-/

namespace Megaraid

/-- The path of the ioctl node. -/
def ioctlNode : String := "/dev/megaraid_sas_ioctl_node"

/-- Where a run stands in its dialogue with the kernel. -/
inductive Session where
  | start
  /-- The block device is open. -/
  | device (fd : Int)
  /-- The block device is open and has told its host number. -/
  | located (fd bus : Int)
  /-- The host number is known and nothing is open. -/
  | known (bus : Int)
  /-- The ioctl node is open. -/
  | attached (fd bus : Int)
  | ended

namespace Session

/-- The dialogue that a tool keeps up with the kernel about a block device. -/
def allows (path : String) : Session → Event → Prop
  | .start, .openFile opened nonblock _ _ => opened = path ∧ nonblock = true
  | .known _, .openFile opened nonblock _ _ => opened = ioctlNode ∧ nonblock = false
  | .device fd, .getBusNumber asked _ => asked = fd
  | .device fd, .close closed => closed = fd
  | .located fd _, .close closed => closed = fd
  | .attached fd _, .close closed => closed = fd
  | .attached fd bus, .firmware command =>
      command.fd = fd ∧ command.ioc.hostNo = UInt16.ofInt bus
  | .attached _ _, .sleep _ => True
  | _, .stdout _ => True
  | _, .stderr _ => True
  | _, .perror _ _ => True
  | _, .setLineBuffered => True
  | _, _ => False

def step : Session → Event → Session
  | .start, .openFile _ _ fd _ => if fd < 0 then .ended else .device fd
  | .known bus, .openFile _ _ fd _ => if fd < 0 then .ended else .attached fd bus
  | .device fd, .getBusNumber _ reply => if reply.result < 0 then .device fd
      else .located fd reply.busNo
  | .device _, .close _ => .ended
  | .located _ bus, .close _ => .known bus
  | .attached _ _, .close _ => .ended
  | session, _ => session

/-- Nothing is open and nothing will be opened. -/
def Closed (session : Session) : Prop := session = .start ∨ session = .ended

end Session

/-- The monitor of the dialogue. -/
def kernel (path : String) : Monitor Session Event where
  allows := Session.allows path
  step := Session.step

/-! ### Open files -/

/-- The open files after one more event, by path and descriptor. -/
def openNext (files : List (String × Int)) : Event → List (String × Int)
  | .openFile path _ fd _ => if fd < 0 then files else (path, fd) :: files
  | .close fd => files.filter fun file => file.2 ≠ fd
  | _ => files

/-- The files that a record leaves open. -/
def openFiles (events : List Event) : List (String × Int) := events.foldl openNext []

/-- How a run uses its files: one at a time, the block device for its host number
only, and the ioctl node for commands to the controller of that number. -/
structure HandlesFiles (path : String) (events : List Event) : Prop where
  opens : ∀ past opened nonblock fd error rest,
    events = past ++ .openFile opened nonblock fd error :: rest →
    openFiles past = [] ∧
      (opened = path ∧ nonblock = true ∨ opened = ioctlNode ∧ nonblock = false)
  queries : ∀ past fd reply rest, events = past ++ .getBusNumber fd reply :: rest →
    openFiles past = [(path, fd)]
  closes : ∀ past fd rest, events = past ++ .close fd :: rest →
    ∃ opened, openFiles past = [(opened, fd)]
  commands : ∀ past command rest, events = past ++ .firmware command :: rest →
    openFiles past = [(ioctlNode, command.fd)]
  addressed : ∀ past command rest, events = past ++ .firmware command :: rest →
    ∃ fd reply, .getBusNumber fd reply ∈ past ∧ 0 ≤ reply.result ∧
      command.ioc.hostNo = UInt16.ofInt reply.busNo
  waits : ∀ past seconds rest, events = past ++ .sleep seconds :: rest →
    ∃ fd, openFiles past = [(ioctlNode, fd)]

/-- The open files of a session. -/
def Session.files (path : String) : Session → List (String × Int)
  | .device fd => [(path, fd)]
  | .located fd _ => [(path, fd)]
  | .attached fd _ => [(ioctlNode, fd)]
  | _ => []

/-- The files open after one more event. -/
theorem openFiles_concat (past : List Event) (event : Event) :
    openFiles (past ++ [event]) = openNext (openFiles past) event := by
  rw [openFiles, List.foldl_append]
  rfl

/-- One step of the dialogue opens and closes what its event says. -/
theorem Session.files_step {path : String} {session : Session} {event : Event}
    (allowed : session.allows path event) :
    (session.step event).files path = openNext (session.files path) event := by
  cases session <;> cases event <;> simp only [allows] at allowed <;>
    simp [step, files, openNext, allowed]
  · split_ifs <;> rfl
  · split_ifs <;> rfl
  · split_ifs <;> rfl

/-- The host number a session knows is one that the kernel told. -/
def Session.Told (past : List Event) : Session → Prop
  | .located _ bus | .known bus | .attached _ bus =>
      ∃ fd reply, .getBusNumber fd reply ∈ past ∧ 0 ≤ reply.result ∧ reply.busNo = bus
  | _ => True

/-- What was told of a session stays true. -/
theorem Session.Told.concat {past : List Event} {session : Session} (told : session.Told past)
    (event : Event) : session.Told (past ++ [event]) := by
  cases session with
  | located | known | attached =>
      obtain ⟨fd, reply, member, good, same⟩ := told
      exact ⟨fd, reply, List.mem_append_left _ member, good, same⟩
  | _ => trivial

/-- An allowed event keeps the account of the session true. -/
theorem Session.told_step {path : String} {past : List Event} {session : Session} {event : Event}
    (told : session.Told past) (allowed : session.allows path event) :
    (session.step event).Told (past ++ [event]) := by
  have kept := told.concat event
  cases session with
  | start =>
      cases event with
      | openFile opened nonblock fd error =>
          simp only [step]
          split <;> trivial
      | _ => trivial
  | device fd =>
      cases event with
      | getBusNumber asked reply =>
          simp only [step]
          split
          · trivial
          · rename_i good
            exact ⟨asked, reply, by simp, not_lt.mp good, rfl⟩
      | _ => trivial
  | located fd bus =>
      cases event with
      | close | stdout | stderr | perror | setLineBuffered => exact kept
      | _ => cases allowed
  | known bus =>
      cases event with
      | openFile opened nonblock fd error =>
          simp only [step]
          split
          · trivial
          · exact kept
      | stdout | stderr | perror | setLineBuffered => exact kept
      | _ => cases allowed
  | attached fd bus =>
      cases event with
      | close => trivial
      | firmware | sleep | stdout | stderr | perror | setLineBuffered => exact kept
      | _ => cases allowed
  | ended =>
      cases event <;> trivial

section Accepted

variable {path : String} {events : List Event} (accepted : (kernel path).Accepts .start events)
include accepted

/-- The open files after a dialogue are those of the session it comes to. -/
theorem openFiles_eq_files : openFiles events = ((kernel path).after .start events).files path := by
  refine accepted.invariant (fun past session => openFiles past = session.files path) rfl ?_
  intro past session event same allowed
  rw [openFiles_concat, same]
  exact (Session.files_step allowed).symm

/-- The session after a dialogue knows nothing but what the kernel told. -/
theorem told_of_accepts : ((kernel path).after .start events).Told events := by
  refine accepted.invariant (fun past session => session.Told past) trivial ?_
  exact fun past session event told allowed => Session.told_step told allowed

/-- The session at a cut allows the event behind it, and what it has open and knows
comes from the events before it. -/
theorem session_at {past rest : List Event} {event : Event}
    (split : events = past ++ event :: rest) :
    ∃ session : Session, session.allows path event ∧ openFiles past = session.files path ∧
      session.Told past := by
  have allowed := accepted.allows_at split
  rw [split] at accepted
  have front := accepted.of_append
  exact ⟨_, allowed, openFiles_eq_files front, told_of_accepts front⟩

/-- What the dialogue means for the files. -/
theorem handlesFiles_of_accepts : HandlesFiles path events where
  opens past opened nonblock fd error rest split := by
    obtain ⟨session, allowed, same, _⟩ := session_at accepted split
    cases session with
    | start => exact ⟨same, Or.inl allowed⟩
    | known => exact ⟨same, Or.inr allowed⟩
    | _ => cases allowed
  queries past fd reply rest split := by
    obtain ⟨session, allowed, same, _⟩ := session_at accepted split
    cases session with
    | device =>
        rw [same, allowed]
        rfl
    | _ => cases allowed
  closes past fd rest split := by
    obtain ⟨session, allowed, same, _⟩ := session_at accepted split
    cases session with
    | device =>
        rw [same, allowed]
        exact ⟨path, rfl⟩
    | located =>
        rw [same, allowed]
        exact ⟨path, rfl⟩
    | attached =>
        rw [same, allowed]
        exact ⟨ioctlNode, rfl⟩
    | _ => cases allowed
  commands past command rest split := by
    obtain ⟨session, allowed, same, _⟩ := session_at accepted split
    cases session with
    | attached =>
        rw [same, allowed.1]
        rfl
    | _ => cases allowed
  addressed past command rest split := by
    obtain ⟨session, allowed, _, told⟩ := session_at accepted split
    cases session with
    | attached fd bus =>
        obtain ⟨asked, reply, member, good, number⟩ := told
        exact ⟨asked, reply, member, good, by rw [allowed.2, number]⟩
    | _ => cases allowed
  waits past seconds rest split := by
    obtain ⟨session, allowed, same, _⟩ := session_at accepted split
    cases session with
    | attached => exact ⟨_, same⟩
    | _ => cases allowed

end Accepted

end Megaraid
