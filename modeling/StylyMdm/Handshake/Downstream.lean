import StylyMdm.Handshake.Effects

/-!
# What a client is told

A client and the server do not learn of a registration at the same time. What they agree on is the
standing that the client will have when it has read everything under way: the books of the server
have an entry ready only if the client will know by then (`Heard`), and each command that was
written finds the client with the standing it is for (`Standing.Flows`).

A `Standing` is unregistered, provisional with an id, or canonical. Each frame moves it
(`after`), and `afterAll` is what is left when all frames under way have been read. The two
properties are about suffixes of what was sent, so reading a frame from the front and writing one at
the end are the only operations they have to survive.

Commands that wait to be written are in none of the queues. They are for a standing too, and are
dropped by `permits` when the socket no longer has it.
-/

namespace StylyMdm.Handshake

open Text Registry

/-! ### Standings -/

/-- What the registration of a socket is known to be. -/
inductive Standing
  | unregistered
  | provisional (connectionId : Str)
  | canonical
deriving DecidableEq

/-- The provisional connection a target names. -/
def Target.connectionId : Target → Option Str
  | .device _ => none
  | .connection connectionId => some connectionId

/-- The standing that a command is for. -/
def Command.standing (command : Command) : Standing :=
  match command.connectionId with
  | none => .canonical
  | some connectionId => .provisional connectionId

namespace Standing

/-- The standing when one more frame has been read. -/
def after : Standing → Down → Standing
  | _, .registered => .canonical
  | .canonical, .registeredProvisional _ => .canonical
  | _, .registeredProvisional connectionId => .provisional connectionId
  | standing, _ => standing

/-- The standing when all frames have been read. -/
def afterAll (standing : Standing) (inbound : List Down) : Standing := inbound.foldl after standing

/-- Each command finds the standing it is for. -/
def Flows : Standing → List Down → Prop
  | _, [] => True
  | standing, frame :: inbound =>
    (∀ command, frame = .command command → standing = command.standing) ∧
      (standing.after frame).Flows inbound

variable {standing : Standing} {inbound : List Down} {frame : Down}

/-- A device that is registered stays registered. -/
@[simp] theorem canonical_after : canonical.after frame = canonical := by
  cases frame <;> rfl

/-- `REGISTERED` registers the device. -/
@[simp] theorem after_registered : standing.after .registered = .canonical := by
  cases standing <;> rfl

/-- A command changes no standing. -/
@[simp] theorem after_command {command : Command} :
    standing.after (.command command) = standing := by
  cases standing <;> rfl

/-- Nor does an error. -/
@[simp] theorem after_error : standing.after .error = standing := by
  cases standing <;> rfl

/-- `REGISTERED_PROVISIONAL` gives a connection id to a device that is not registered. -/
theorem after_registeredProvisional {connectionId : Str} (h : standing ≠ .canonical) :
    standing.after (.registeredProvisional connectionId) = .provisional connectionId := by
  cases standing with
  | unregistered => rfl
  | provisional connectionId => rfl
  | canonical => exact absurd rfl h

/-- One more frame. -/
@[simp] theorem afterAll_append :
    standing.afterAll (inbound ++ [frame]) = (standing.afterAll inbound).after frame := by
  rw [afterAll, List.foldl_append]
  rfl

/-- One more frame, which is no command for another standing. -/
theorem flows_append : standing.Flows (inbound ++ [frame]) ↔ standing.Flows inbound ∧
    ∀ command, frame = .command command → standing.afterAll inbound = command.standing := by
  induction inbound generalizing standing with
  | nil => simp [Flows, afterAll]
  | cons first inbound ih =>
    rw [List.cons_append, Flows, ih, Flows, and_assoc]
    exact Iff.rfl

end Standing

/-! ### What the server has written -/

namespace Handler

variable {h h' : Handler}

/-- The socket of the handler is the device, or has been given the connection id. -/
def Serves (h : Handler) : Target → Prop
  | .device deviceId => h.deviceId = some deviceId
  | .connection connectionId => h.issued = some connectionId

/-- A command that is for the socket of the handler, and says so. -/
structure Addressed (h : Handler) (command : Command) : Prop where
  serves : h.Serves command.target
  connectionId : command.connectionId = command.target.connectionId
  power : command.connectionId ≠ none → command.type.isPower = true

/-- A frame that the server may have written to the socket of the handler. -/
def Wrote (h : Handler) : Down → Prop
  | .registered => h.deviceId ≠ none
  | .registeredProvisional connectionId =>
    h.issued = some connectionId ∧ World.isHex connectionId = true
  | .error => True
  | .command command => h.Addressed command

/-- A standing that the server may have given to the socket of the handler. -/
def Gave (h : Handler) : Standing → Prop
  | .unregistered => True
  | .provisional connectionId => h.issued = some connectionId
  | .canonical => h.deviceId ≠ none

/-- What a handler serves, it serves later. -/
theorem Extends.serves (hext : h.Extends h') {target : Target} (hserves : h.Serves target) :
    h'.Serves target := by
  cases target with
  | device deviceId => exact (hext.deviceId deviceId hserves).1
  | connection connectionId => exact hext.issued connectionId hserves

/-- A handler that has a device keeps one. -/
theorem Extends.registered (hext : h.Extends h') (hdevice : h.deviceId ≠ none) :
    h'.deviceId ≠ none := by
  obtain ⟨deviceId, hdeviceId⟩ := Option.ne_none_iff_exists'.mp hdevice
  rw [(hext.deviceId deviceId hdeviceId).1]
  exact Option.some_ne_none deviceId

/-- What it was asked to write stays addressed to its socket. -/
theorem Extends.addressed (hext : h.Extends h') {command : Command}
    (haddressed : h.Addressed command) : h'.Addressed command :=
  ⟨hext.serves haddressed.serves, haddressed.connectionId, haddressed.power⟩

/-- What it wrote, it wrote. -/
theorem Extends.wrote (hext : h.Extends h') {frame : Down} (hwrote : h.Wrote frame) :
    h'.Wrote frame := by
  cases frame with
  | registered => exact hext.registered hwrote
  | registeredProvisional connectionId => exact ⟨hext.issued _ hwrote.1, hwrote.2⟩
  | error => trivial
  | command command => exact hext.addressed hwrote

/-- The standing it has given stays given. -/
theorem Extends.gave (hext : h.Extends h') {standing : Standing} (hgave : h.Gave standing) :
    h'.Gave standing := by
  cases standing with
  | unregistered => trivial
  | provisional connectionId => exact hext.issued _ hgave
  | canonical => exact hext.registered hgave

/-- A frame of the handler gives the standing it announces. -/
theorem Gave.after {standing : Standing} {frame : Down} (hgave : h.Gave standing)
    (hwrote : h.Wrote frame) : h.Gave (standing.after frame) := by
  cases frame with
  | registered => rwa [Standing.after_registered]
  | registeredProvisional connectionId =>
    by_cases hcanonical : standing = .canonical
    · rw [hcanonical] at hgave ⊢
      exact hgave
    · rw [Standing.after_registeredProvisional hcanonical]
      exact hwrote.1
  | error => rwa [Standing.after_error]
  | command command => rwa [Standing.after_command]

/-- So do all the frames it has written. -/
theorem Gave.afterAll {standing : Standing} {inbound : List Down} (hgave : h.Gave standing)
    (hwrote : ∀ frame ∈ inbound, h.Wrote frame) : h.Gave (standing.afterAll inbound) := by
  induction inbound generalizing standing with
  | nil => exact hgave
  | cons frame inbound ih =>
    exact ih (hgave.after (hwrote frame List.mem_cons_self))
      fun later hlater => hwrote later (List.mem_cons_of_mem frame hlater)

end Handler

/-! ### The books and the client -/

namespace ConnectionRegistration

variable {Token : Type*} (r : ConnectionRegistration Token)

/-- The registration of the current socket has this standing. -/
def Stands : Standing → Prop
  | .unregistered => r.acknowledgement = .none
  | .provisional connectionId =>
    r.acknowledgement = .provisional ∧ r.provisionalConnectionId = some connectionId
  | .canonical => r.acknowledgement = .canonical

end ConnectionRegistration

/-- The client, which has the standing `standing`, will have the one that the books say. -/
structure Heard (s : Server) (ws : Socket) (h : Handler) (inbound : List Down)
    (standing : Standing) : Prop where
  gave : h.Gave standing
  flows : standing.Flows inbound
  ready : ∀ deviceId entry, s.devices deviceId = some entry → entry.ws = ws →
    entry.registrationReady = true → standing.afterAll inbound = .canonical
  acknowledged : h.point = .acknowledged → standing.afterAll inbound = .canonical
  readyProvisional : ∀ entry, s.provisional ws = some entry → entry.registrationReady = true →
    standing.afterAll inbound = .provisional entry.connectionId
  issued : ∀ connectionId, h.point = .issued connectionId →
    standing.afterAll inbound = .provisional connectionId

namespace Heard

variable {s s' : Server} {ws ws' : Socket} {h h' : Handler} {inbound : List Down}
  {standing : Standing} {frame : Option Down}

/-- A move of the handler. -/
theorem effect (hheard : Heard s ws h inbound standing) (heffect : s.Effect ws h s' h' frame)
    (hwrote : ∀ frame ∈ inbound, h.Wrote frame) :
    Heard s' ws h' (inbound ++ frame.toList) standing := by
  have hw : s'.handlers ws = some h' := by rw [heffect.handler, Function.update_self]
  have hgave := heffect.grows.gave (hheard.gave.afterAll hwrote)
  -- a socket with a provisional entry stays provisional
  have hprovisional : ∀ connectionId, standing.afterAll inbound = .provisional connectionId →
      h'.deviceId = none → h'.issued = some connectionId →
        standing.afterAll (inbound ++ frame.toList) = .provisional connectionId := by
    intro connectionId hstanding hdevice hissued
    cases hframe : frame with
    | none => rwa [Option.toList_none, List.append_nil]
    | some written =>
      rw [Option.toList_some, Standing.afterAll_append, hstanding]
      cases written with
      | registered => exact absurd hdevice (heffect.registered hframe)
      | registeredProvisional given =>
        have hgiven := (heffect.registeredProvisional given hframe).1
        rw [← Option.some.inj (hissued.symm.trans hgiven)]
        rfl
      | error => rfl
      | command command => exact absurd hframe (heffect.command command)
  have hcanonical : standing.afterAll inbound = .canonical →
      standing.afterAll (inbound ++ frame.toList) = .canonical := by
    intro hstanding
    cases frame with
    | none => rwa [Option.toList_none, List.append_nil]
    | some written =>
      rw [Option.toList_some, Standing.afterAll_append, hstanding, Standing.canonical_after]
  refine ⟨heffect.grows.gave hheard.gave, ?_, fun deviceId entry heq hws hready => hcanonical ?_,
    fun hpoint => ?_, fun entry heq hready => ?_, fun connectionId hpoint => ?_⟩
  · cases hframe : frame with
    | none =>
      rw [Option.toList_none, List.append_nil]
      exact hheard.flows
    | some written =>
      refine Standing.flows_append.mpr ⟨hheard.flows, fun command hcommand => ?_⟩
      exact absurd (hframe.trans (congrArg some hcommand)) (heffect.command command)
  · rcases heffect.ready deviceId entry heq hws hready with hbefore | hpoint
    · exact hheard.ready deviceId entry hbefore hws hready
    · exact hheard.acknowledged hpoint
  · rw [heffect.acknowledged hpoint, Option.toList_some, Standing.afterAll_append,
      Standing.after_registered]
  · obtain ⟨h₀, hh₀, hdevice, -, hissued, -⟩ := heffect.sound.entry ws entry heq
    obtain rfl := Option.some.inj (hw.symm.trans hh₀)
    refine hprovisional _ ?_ hdevice hissued
    rcases heffect.readyProvisional entry heq hready with ⟨entry', heq', hready', hid⟩ | hpoint
    · rw [← hid]
      exact hheard.readyProvisional entry' heq' hready'
    · exact hheard.issued _ hpoint
  · rw [heffect.issued connectionId hpoint, Option.toList_some, Standing.afterAll_append]
    refine Standing.after_registeredProvisional fun hstanding => ?_
    have hat := heffect.sound.atPoint hw hpoint
    rw [hstanding] at hgave
    exact hgave hat.1

/-- A move of another handler. -/
theorem other (hheard : Heard s ws h inbound standing) (heffect : s.Effect ws' h' s' h' frame)
    (hne : ws ≠ ws') : Heard s' ws h inbound standing where
  gave := hheard.gave
  flows := hheard.flows
  ready deviceId entry heq hws hready :=
    hheard.ready deviceId entry (heffect.devices deviceId entry heq (hws ▸ hne)) hws hready
  acknowledged := hheard.acknowledged
  readyProvisional entry heq hready :=
    hheard.readyProvisional entry ((heffect.provisional ws hne).symm.trans heq) hready
  issued := hheard.issued

/-- The next frame has been read. -/
theorem read {first : Down} (hheard : Heard s ws h (first :: inbound) standing)
    (hwrote : h.Wrote first) : Heard s ws h inbound (standing.after first) where
  gave := hheard.gave.after hwrote
  flows := hheard.flows.2
  ready := hheard.ready
  acknowledged := hheard.acknowledged
  readyProvisional := hheard.readyProvisional
  issued := hheard.issued

/-- A command is written to a socket that may have it. -/
theorem write {command : Command} (hheard : Heard s ws h inbound standing)
    (hpermits : s.permits ws command = true) :
    Heard s ws h (inbound ++ [.command command]) standing := by
  have hsame : standing.afterAll (inbound ++ [.command command]) = standing.afterAll inbound := by
    rw [Standing.afterAll_append, Standing.after_command]
  refine ⟨hheard.gave, Standing.flows_append.mpr ⟨hheard.flows, fun command' hcommand => ?_⟩,
    fun deviceId entry heq hws hready => hsame.trans (hheard.ready deviceId entry heq hws hready),
    fun hpoint => hsame.trans (hheard.acknowledged hpoint),
    fun entry heq hready => hsame.trans (hheard.readyProvisional entry heq hready),
    fun connectionId hpoint => hsame.trans (hheard.issued connectionId hpoint)⟩
  cases hcommand
  -- what `send_str` tests is what the books say that the client will have heard
  rw [Server.permits] at hpermits
  split at hpermits
  · rename_i entry heq
    simp only [Bool.and_eq_true, decide_eq_true_eq, Provisional.allows] at hpermits
    rw [Command.standing, hpermits.1.2]
    exact hheard.readyProvisional entry heq hpermits.2.1.1
  · split at hpermits
    · cases hpermits
    · rename_i deviceId _
      obtain ⟨entry, heq, hall⟩ := (Option.any_eq_true _ _).mp hpermits
      simp only [Bool.and_eq_true, decide_eq_true_eq, Entry.allows, Option.isNone_iff_eq_none]
        at hall
      rw [Command.standing, hall.1.2]
      exact hheard.ready deviceId entry heq hall.1.1.1 hall.2.1

end Heard

end StylyMdm.Handshake
