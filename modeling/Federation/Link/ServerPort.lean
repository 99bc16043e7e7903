/-
Federation/Link/ServerPort.lean

The port at which a federate listens.

With a fixed port only that port is tried. Else the ports of the range are tried
in order until one is not in use. What a try is, is left open, as any monad says
(`ServerSettings.listenM`); it comes to the port that was bound, which may be
another one if port 0 was asked for, or to a failure. `ServerSettings.listen` is
the search whose tries are known beforehand.
-/
import Federation.Config.Basic
import Federation.Fault

namespace Federation

/-- What came of the search for a port: the ports that were tried, in order, and
the result. -/
structure PortSearch where
  tried : List UInt16
  result : Except Fault UInt16

namespace ServerSettings

variable (s : ServerSettings)

/-- The fault of a port that cannot be bound. -/
def cannotBind (port : UInt16) (e : IoError) : Fault :=
  .config
    ("cannot bind server on " ++ s.host ++ ":" ++ toString port ++ ": " ++ e.text)

/-- The fault of a range whose ports are all in use. -/
def noFreePort : Fault :=
  .config ("no free port in " ++ toString s.basePort ++ ".." ++
    toString (s.basePort.toNat + s.portRange.toNat))

section Monad

variable {m : Type → Type} [Monad m] (bind : UInt16 → m (Except IoError UInt16))

/-- Tries up to `left` ports from the given one on. -/
def probeM : (left port : Nat) → m PortSearch
  | 0, _ => return ⟨[], .error s.noFreePort⟩
  | left + 1, port => do
    if port < 65536 then
      let p := UInt16.ofNat port
      match ← bind p with
      | .ok bound => return ⟨[p], .ok bound⟩
      | .error e =>
        if e.kind = .addressInUse then
          let rest ← probeM left (port + 1)
          return { rest with tried := p :: rest.tried }
        else return ⟨[p], .error (s.cannotBind p e)⟩
    else return ⟨[], .error s.noFreePort⟩

/-- Finds a port to listen at. -/
def listenM : m PortSearch := do
  match s.port with
  | some p => return ⟨[p], (← bind p).mapError (s.cannotBind p)⟩
  | none => s.probeM bind s.portRange.toNat s.basePort.toNat

end Monad

variable (bind : UInt16 → Except IoError UInt16)

/-- The search among up to `left` ports from the given one on, where a try of
`p` ends as `bind p` says. -/
def probe (left port : Nat) : PortSearch :=
  Id.run (s.probeM (fun p => pure (bind p)) left port)

/-- The search for a port to listen at, where a try of `p` ends as `bind p` says. -/
def listen : PortSearch := Id.run (s.listenM fun p => pure (bind p))

variable {s bind} {left port : Nat} {p : UInt16}

@[simp] theorem probe_zero : s.probe bind 0 port = ⟨[], .error s.noFreePort⟩ := rfl

/-- A port in use is passed over; any other one ends the search, whether it can be
had or not. -/
theorem probe_succ (h : port < 65536) :
    s.probe bind (left + 1) port =
      let p := UInt16.ofNat port
      match bind p with
      | .ok bound => ⟨[p], .ok bound⟩
      | .error e =>
        if e.kind = .addressInUse then
          let rest := s.probe bind left (port + 1)
          { rest with tried := p :: rest.tried }
        else ⟨[p], .error (s.cannotBind p e)⟩ := by
  rcases hbind : bind (UInt16.ofNat port) with e | bound
  · by_cases hkind : e.kind = .addressInUse <;>
      simp [probe, probeM, h, hbind, hkind]
  · simp [probe, probeM, h, hbind]

/-- There are no ports beyond the last one. -/
theorem probe_succ_of_ge (h : 65536 ≤ port) :
    s.probe bind (left + 1) port = ⟨[], .error s.noFreePort⟩ := by
  simp [probe, probeM, Nat.not_lt.mpr h]

/-- A fixed port is tried once. -/
theorem listen_of_some (h : s.port = some p) :
    s.listen bind = ⟨[p], (bind p).mapError (s.cannotBind p)⟩ := by
  simp [listen, listenM, h]

/-- Without one the range is searched from its first port on. -/
theorem listen_of_none (h : s.port = none) :
    s.listen bind = s.probe bind s.portRange.toNat s.basePort.toNat := by
  simp [listen, listenM, probe, h]

end ServerSettings

end Federation
