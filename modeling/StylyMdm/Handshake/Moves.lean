import StylyMdm.Handshake.System

/-!
# What a handler can do

`Move` says once what a handler may do between two awaits, but for the two things that a `REGISTER`
is for: the points it goes from and to, what it changes, and the frame that it writes.
`register_cases` and `resume_move` say that the handler does nothing else. The properties of the
server are proved of moves.

A move is made by the handler of one socket, and everything it changes is a change of the books by
one of a few operations. Leaving has a relation of its own (`Leave`), since a handler can leave from
every await: by an exception, because its connection is gone, or because it was refused. At a point
that is over (`Point.IsOver`) a handler has no entries any more and writes nothing
(`Point.IsOver.quiet`); from there it only goes on to the end.
-/

namespace StylyMdm.Handshake

open Text Py Registry

/-- A handler that has no message to take any more. -/
def Point.IsOver : Point → Prop
  | .rejecting | .disconnecting | .leaving | .closing _ | .departing | .closed => True
  | _ => False

/-- A handler that is over does not wait for an acknowledgement to be written. -/
theorem Point.IsOver.quiet {point : Point} (hover : point.IsOver) :
    (∀ connectionId, point ≠ .issued connectionId) ∧ point ≠ .acknowledged :=
  ⟨fun _ heq => by rw [heq] at hover; exact hover, fun heq => by rw [heq] at hover; exact hover⟩

/-- After the `finally` block the handler is over. -/
theorem Point.isOver_afterwards (lost : Bool) : (afterwards lost).IsOver := by
  cases lost <;> trivial

namespace Server

/-- The server after the `finally` block, or before its last await. -/
inductive Leave (s : Server) (ws : Socket) (h : Handler) : Server → Prop
  | stranger {lost : Bool}
    (howns : ∀ deviceId, h.deviceId = some deviceId → s.owns deviceId ws = false) :
    Leave s ws h ((s.setProvisional ws none).park ws h (.afterwards lost))
  | owner {lost : Bool} {deviceId : DeviceId} (hdevice : h.deviceId = some deviceId)
    (howns : s.owns deviceId ws = true) :
    Leave s ws h (((s.setProvisional ws none).setDevice deviceId none).park ws h
      (.afterwards lost))
  | waiting {lost : Bool} {deviceId : DeviceId} (hdevice : h.deviceId = some deviceId)
    (howns : s.owns deviceId ws = true) :
    Leave s ws h ((s.setProvisional ws none).park ws h (.closing lost))

/-- The `finally` block does what `Leave` says. -/
theorem leave_leave (s : Server) (ws : Socket) (h : Handler) (verifying lost : Bool) :
    Leave s ws h (s.leave ws h verifying lost) := by
  rw [leave]
  have howns : ∀ deviceId, (s.setProvisional ws none).owns deviceId ws = s.owns deviceId ws :=
    fun _ => rfl
  split
  · rename_i hdevice
    exact .stranger fun deviceId hsome => absurd (hdevice.symm.trans hsome) (by simp)
  · rename_i deviceId hdevice
    rw [howns]
    split_ifs with hstranger hverifying
    · rw [Bool.not_eq_true'] at hstranger
      refine .stranger fun deviceId' hsome => ?_
      obtain rfl := Option.some.inj (hdevice.symm.trans hsome)
      exact hstranger
    · exact .waiting hdevice (by simpa using hstranger)
    · exact .owner hdevice (by simpa using hstranger)

/-- A move of the handler `h` of the socket `ws`. -/
inductive Move (s : Server) (ws : Socket) (h : Handler) : Server → Option Down → Prop
  | stay (hfrom : h.point = .receive ∨ h.point = .closed) : Move s ws h s none
  /-- The next message, or an await before it. -/
  | rest {point : Point} (hfrom : h.point = .receive ∨ h.point = .answering ∨ h.point = .completed)
    (hto : point = .receive ∨ point = .answering) : Move s ws h (s.park ws h point) none
  /-- A message that is refused, or a socket that was closed. -/
  | stop {point : Point} (hfrom : h.point = .receive)
    (hto : point = .rejecting ∨ point = .disconnecting) : Move s ws h (s.park ws h point) none
  | refuse {frame : Option Down} (hfrom : h.point = .rejecting)
    (hframe : frame = none ∨ frame = some .error) : Move s ws h (s.park ws h .disconnecting) frame
  | again {deviceId : DeviceId} (hfrom : h.point = .receive)
    (hdevice : h.deviceId = some deviceId) :
    Move s ws h (s.park ws h .reacknowledging) none
  | reacknowledge (hfrom : h.point = .reacknowledging) (hdevice : h.deviceId.isSome) :
    Move s ws h (s.park ws h .answering) (some .registered)
  | issue {connectionId : Str} (hfrom : h.point = .issuing connectionId) :
    Move s ws h (s.park ws h (.issued connectionId)) (some (.registeredProvisional connectionId))
  | issued {connectionId : Str} (hfrom : h.point = .issued connectionId) :
    Move s ws h ((s.setProvisional ws ((s.provisional ws).map fun entry =>
      if entry.connectionId = connectionId then { entry with registrationReady := true }
      else entry)).park ws h .answering) none
  | replace {deviceId : DeviceId} (hfrom : h.point = .registering)
    (hdevice : h.deviceId = some deviceId) (hnewest : s.isCandidate ws deviceId = true) :
    Move s ws h ((s.replaceSession ws deviceId).park ws h .reconciling) none
  | session {deviceId : DeviceId} (hfrom : h.point = .reconciling)
    (hdevice : h.deviceId = some deviceId) (hnewest : s.isCandidate ws deviceId = true) :
    Move s ws h ((s.setSession deviceId (some ws)).park ws h .acknowledging) none
  | superseded {deviceId : DeviceId} (hfrom : h.point = .registering ∨ h.point = .reconciling)
    (hdevice : h.deviceId = some deviceId) (hnewer : s.isCandidate ws deviceId = false) :
    Move s ws h (s.park ws h .completed) none
  | acknowledge {deviceId : DeviceId} (hfrom : h.point = .acknowledging)
    (hdevice : h.deviceId = some deviceId) :
    Move s ws h (s.park ws h .acknowledged) (some .registered)
  | ready {deviceId : DeviceId} (hfrom : h.point = .acknowledged)
    (hdevice : h.deviceId = some deviceId) (howns : s.owns deviceId ws = true) :
    Move s ws h (((s.setReady deviceId true).dropCandidate ws deviceId).park ws h .completed) none
  | disowned {deviceId : DeviceId} (hfrom : h.point = .acknowledged)
    (hdevice : h.deviceId = some deviceId) (howns : s.owns deviceId ws = false) :
    Move s ws h (s.park ws h .completed) none
  | disconnect {deviceId : DeviceId} (hfrom : h.point = .disconnecting)
    (hdevice : h.pushDeviceId = some deviceId) :
    Move s ws h ((s.disconnectDevice ws deviceId).park ws h .leaving) none
  | hurry (hfrom : h.point = .disconnecting) : Move s ws h (s.park ws h .leaving) none
  | leave {s' : Server} (hleave : Leave s ws h s') : Move s ws h s' none
  | fail {deviceId : DeviceId} {s' : Server} (hdevice : h.deviceId = some deviceId)
    (hleave : Leave (s.endSession ws deviceId) ws h s') : Move s ws h s' none
  | delete {lost : Bool} {deviceId : DeviceId} (hfrom : h.point = .closing lost)
    (hdevice : h.deviceId = some deviceId) :
    Move s ws h ((s.setDevice deviceId none).park ws h (.afterwards lost)) none
  | depart {deviceId : DeviceId} (hfrom : h.point = .departing)
    (hdevice : h.pushDeviceId = some deviceId) :
    Move s ws h ((s.disconnectDevice ws deviceId).park ws h .closed) none
  /-- Nothing more is done, after an await that has raised or without a device. -/
  | finish {point : Point} (hfrom : h.point.IsOver) (hto : point.IsOver) :
    Move s ws h (s.park ws h point) none

section Moves

variable (s : Server) (ws : Socket) (h : Handler)

/-- A `REGISTER` is a move, or a provisional registration, or a promotion. -/
theorem register_cases {data : RegisterData} {capabilities : Value} {connectionId : Str}
    {saved verifying : Bool} (hfrom : h.point = .receive) :
    Move s ws h (s.register ws h data capabilities connectionId saved verifying) none ∨
    (h.deviceId = none ∧ claim data h.remote = .provisional ∧
      s.register ws h data capabilities connectionId saved verifying =
        s.registerProvisional ws h (readProvisional data.identity) (parseCapabilities capabilities)
          connectionId) ∨
    ∃ kind deviceId, h.deviceId = none ∧ claim data h.remote = .device kind deviceId ∧
      ((s.provisional ws).isSome → kind = .canonical) ∧
      s.register ws h data capabilities connectionId saved verifying =
        s.promote ws h kind deviceId saved verifying := by
  rw [register]
  split
  · exact .inl (.leave (leave_leave s ws h verifying false))
  · exact .inl (.stop hfrom (.inl rfl))
  · rename_i hclaim
    split
    · exact .inl (.stop hfrom (.inl rfl))
    · exact .inr (.inl ⟨‹_›, hclaim, rfl⟩)
  · rename_i kind deviceId hclaim
    split
    · split_ifs
      · exact .inl (.stop hfrom (.inl rfl))
      · split
        · exact .inl (.rest (.inl hfrom) (.inr rfl))
        · split_ifs with hregistered
          · exact .inl (.again hfrom ‹_›)
          · exact .inl (.rest (.inl hfrom) (.inr rfl))
    · rename_i hdevice
      split_ifs with hkind
      · exact .inl (.stop hfrom (.inl rfl))
      · refine .inr (.inr ⟨kind, deviceId, hdevice, hclaim, fun hsome => ?_, rfl⟩)
        by_contra hne
        exact hkind ⟨hsome, hne⟩

/-- What a handler does after an await is a move. -/
theorem resume_move (failed verifying : Bool) :
    Move s ws h (s.resume ws h failed verifying).1 (s.resume ws h failed verifying).2 := by
  have hleave := Move.leave (leave_leave s ws h verifying false)
  rw [resume]
  cases hfrom : h.point with
  | receive => exact .stay (.inl hfrom)
  | closed => exact .stay (.inr hfrom)
  | answering =>
    dsimp only
    split_ifs
    · exact hleave
    · exact .rest (.inr (.inl hfrom)) (.inl rfl)
  | issuing connectionId =>
    dsimp only
    split_ifs
    · exact hleave
    · exact .issue hfrom
  | issued connectionId =>
    dsimp only
    split_ifs
    · exact hleave
    · exact .issued hfrom
  | rejecting =>
    cases failed with
    | true => exact .refuse hfrom (.inl rfl)
    | false => exact .refuse hfrom (.inr rfl)
  | closing lost =>
    have hover : h.point.IsOver := by rw [hfrom]; trivial
    dsimp only
    split
    · split_ifs
      · exact .finish hover trivial
      · exact .delete hfrom ‹_›
    · exact .finish hover (Point.isOver_afterwards lost)
  | departing =>
    have hover : h.point.IsOver := by rw [hfrom]; trivial
    dsimp only
    split
    · split_ifs
      · exact .finish hover trivial
      · exact .depart hfrom ‹_›
    · exact .finish hover trivial
  | disconnecting =>
    dsimp only
    split
    · split_ifs
      · exact hleave
      · exact .disconnect hfrom ‹_›
    · exact .hurry hfrom
  | leaving => exact hleave
  | registering =>
    dsimp only
    split
    · exact hleave
    · split_ifs with hfailed hnewest
      · exact hleave
      · exact .replace hfrom ‹_› hnewest
      · exact .superseded (.inl hfrom) ‹_› (Bool.not_eq_true _ ▸ hnewest)
  | reconciling =>
    dsimp only
    split
    · exact hleave
    · split_ifs with hfailed hnewest
      · exact hleave
      · exact .session hfrom ‹_› hnewest
      · exact .superseded (.inr hfrom) ‹_› (Bool.not_eq_true _ ▸ hnewest)
  | acknowledging =>
    dsimp only
    split
    · exact hleave
    · split_ifs
      · exact .fail ‹_› (leave_leave _ ws h verifying false)
      · exact .acknowledge hfrom ‹_›
  | acknowledged =>
    dsimp only
    split
    · exact hleave
    · split_ifs with hfailed howns
      · exact .fail ‹_› (leave_leave _ ws h verifying false)
      · exact .ready hfrom ‹_› howns
      · exact .disowned hfrom ‹_› (Bool.not_eq_true _ ▸ howns)
  | completed =>
    dsimp only
    split
    · exact hleave
    · split_ifs
      · exact hleave
      · exact .rest (.inr (.inr hfrom)) (.inl rfl)
  | reacknowledging =>
    dsimp only
    split
    · exact hleave
    · split_ifs
      · exact hleave
      · exact .reacknowledge hfrom (by rw [‹h.deviceId = _›]; rfl)

end Moves

end Server

end StylyMdm.Handshake
