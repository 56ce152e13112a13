import TypedSum.Text.Bytes

/-! Output to a sink that may have room for a limited number of bytes.  What does not fit is cut off
at the limit, and the first write that is cut off ends the output. -/

namespace TypedSum

/-- The bytes written so far and the room for more; without a number there is always room.  Every write
that did not fit is counted, so that writing on behind a failure shows. -/
structure Sink where
  room : Option Nat
  written : List UInt8
  refused : Nat
  deriving DecidableEq

/-- A new sink with room for a number of bytes. -/
def Sink.ofRoom (room : Option Nat) : Sink := ⟨room, [], 0⟩

inductive WriteError where
  | full
  deriving DecidableEq

/-- Work that writes to a sink; after a failure the sink keeps what was written. -/
structure Output (α : Type) where
  run : Sink → Except WriteError α × Sink

namespace Output

variable {α β γ : Type}

protected def pure (a : α) : Output α := ⟨fun sink => (.ok a, sink)⟩

protected def bind (x : Output α) (f : α → Output β) : Output β :=
  ⟨fun sink =>
    match x.run sink with
    | (.ok a, sink) => (f a).run sink
    | (.error e, sink) => (.error e, sink)⟩

instance : Monad Output where
  pure := Output.pure
  bind := Output.bind

@[simp] theorem run_pure (a : α) (s : Sink) : (pure a : Output α).run s = (.ok a, s) := rfl

theorem run_bind_of_ok {x : Output α} {s t : Sink} {a : α} (h : x.run s = (.ok a, t))
    (f : α → Output β) : (x >>= f).run s = (f a).run t := by
  change (Output.bind x f).run s = _
  simp [Output.bind, h]

theorem run_bind_of_error {x : Output α} {s t : Sink} {e : WriteError}
    (h : x.run s = (.error e, t)) (f : α → Output β) : (x >>= f).run s = (.error e, t) := by
  change (Output.bind x f).run s = _
  simp [Output.bind, h]

theorem ext_run {x y : Output α} (h : ∀ sink, x.run sink = y.run sink) : x = y := by
  cases x
  cases y
  rw [mk.injEq]
  exact funext h

theorem run_bind_congr {x y : Output α} {s t : Sink} (h : x.run s = y.run t) (f : α → Output β) :
    (x >>= f).run s = (y >>= f).run t := by
  change (Output.bind x f).run s = (Output.bind y f).run t
  simp only [Output.bind, h]

protected theorem bind_pure (x : Output α) : (x >>= pure) = x := by
  apply ext_run
  intro s
  cases h : x.run s with
  | mk result t => cases result with
    | ok a => exact run_bind_of_ok h pure
    | error e => exact run_bind_of_error h pure

protected theorem bind_assoc (x : Output α) (f : α → Output β) (g : β → Output γ) :
    (x >>= f >>= g) = (x >>= fun a => f a >>= g) := by
  apply ext_run
  intro s
  cases h : x.run s with
  | mk result t => cases result with
    | ok a => rw [run_bind_congr (run_bind_of_ok h f) g, run_bind_of_ok h]
    | error e => rw [run_bind_of_error (run_bind_of_error h f) g, run_bind_of_error h]

instance : LawfulMonad Output :=
  LawfulMonad.mk' Output Output.bind_pure (fun _ _ => rfl) Output.bind_assoc

def write (text : String) : Output Unit :=
  ⟨fun sink =>
    let new := Text.bytes text
    match sink.room with
    | none => (.ok (), { sink with written := sink.written ++ new })
    | some room =>
      if new.length ≤ room then
        (.ok (), { sink with room := some (room - new.length), written := sink.written ++ new })
      else (.error .full, ⟨some 0, sink.written ++ new.take room, sink.refused + 1⟩)⟩

def writeLine (text : String) : Output Unit := write (text ++ "\n")

section Write

variable (written : List UInt8) (refused : Nat)

@[simp] theorem run_write_of_none (text : String) :
    (write text).run ⟨none, written, refused⟩ =
      (.ok (), ⟨none, written ++ Text.bytes text, refused⟩) := rfl

theorem run_write_of_le {text : String} {room : Nat} (h : (Text.bytes text).length ≤ room) :
    (write text).run ⟨some room, written, refused⟩ =
      (.ok (), ⟨some (room - (Text.bytes text).length), written ++ Text.bytes text, refused⟩) :=
  if_pos h

theorem run_write_of_lt {text : String} {room : Nat} (h : room < (Text.bytes text).length) :
    (write text).run ⟨some room, written, refused⟩ =
      (.error .full, ⟨some 0, written ++ (Text.bytes text).take room, refused + 1⟩) :=
  if_neg (Nat.not_le_of_lt h)

end Write

theorem write_empty : write "" = pure () := by
  apply ext_run
  rintro ⟨room, written, refused⟩
  cases room with
  | none => simp
  | some room => simp [run_write_of_le]

/-- Two writes are one: the room ends at the same byte, and where it ends within the first text the second
is not tried. -/
theorem write_append (s t : String) : (do write s; write t) = write (s ++ t) := by
  apply ext_run
  rintro ⟨room, written, refused⟩
  cases room with
  | none =>
    rw [run_bind_of_ok (run_write_of_none written refused s)]
    simp
  | some room =>
    have hlength : (Text.bytes (s ++ t)).length = (Text.bytes s).length + (Text.bytes t).length := by
      rw [Text.bytes_append, List.length_append]
    rcases Nat.lt_or_ge room (Text.bytes s).length with hs | hs
    · rw [run_bind_of_error (run_write_of_lt written refused hs), run_write_of_lt _ _ (by omega),
        Text.bytes_append, List.take_append_of_le_length (Nat.le_of_lt hs)]
    · rw [run_bind_of_ok (run_write_of_le written refused hs)]
      rcases Nat.lt_or_ge (room - (Text.bytes s).length) (Text.bytes t).length with ht | ht
      · rw [run_write_of_lt _ _ ht, run_write_of_lt _ _ (by omega), Text.bytes_append,
          List.take_append, List.take_of_length_le hs, List.append_assoc]
      · rw [run_write_of_le _ _ ht, run_write_of_le _ _ (by omega), Text.bytes_append,
          List.length_append, Nat.sub_sub, List.append_assoc]

/-- Everything that was written to a new sink, and whether all of it found room. -/
def runWith (output : Output Unit) (room : Option Nat) : List UInt8 × Bool :=
  match output.run (.ofRoom room) with
  | (.ok (), sink) => (sink.written, true)
  | (.error _, sink) => (sink.written, false)

end Output
end TypedSum
