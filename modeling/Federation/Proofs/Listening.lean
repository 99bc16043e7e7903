/-
Federation/Proofs/Listening.lean

Where a federate comes to listen.

A federate without a fixed port tries the ports of its range one after another
and passes over those that are in use. The numbers of the ports are counted up,
and the count ends behind the last port there is, so a range may be cut short.
Here the search is told over the list of the ports that it tries (`tryAll`,
equal to the counted search by `probe_eq_tryAll`):

* what is in use ahead of a port is tried and passed over (`tryAll_append`);
* the first port that is not in use decides, whether it is bound or not
  (`tryAll_first`).

That the range of valid settings is not cut short is a matter of one sum, which
the settings are refused for (`range_le_of_validate`).

The faults of a search are told apart by their texts: that of a port ends its
number with a colon, so it names one port only (`cannotBind_inj`), and that of a
range begins otherwise (`noFreePort_ne_cannotBind`).
-/
import Mathlib
import Federation.Link.ServerPort
import Federation.Proofs.Opening

namespace Federation

namespace ServerSettings

variable {s : ServerSettings} {bind : UInt16 → Except IoError UInt16}

/-! ### The texts of the faults -/

/-- The digits ahead of a colon are those of the number that is written there. -/
theorem takeWhile_isDigit_number (p : UInt16) (rest : String) :
    (toString p ++ (": " ++ rest)).toList.takeWhile Char.isDigit
      = Nat.toDigits 10 p.toNat := by
  have hnumber : (toString p).toList = Nat.toDigits 10 p.toNat := by
    change (toString p.toNat).toList = _
    rw [Nat.toString_eq_ofList_toDigits, String.toList_ofList]
  have hdigits : ∀ c ∈ Nat.toDigits 10 p.toNat, c.isDigit = true := fun c hc =>
    Nat.isDigit_of_mem_toDigits (by decide) le_rfl hc
  have hcolon : (": " ++ rest).toList.takeWhile Char.isDigit = [] := by
    rw [String.toList_append]
    rfl
  rw [String.toList_append, hnumber, List.takeWhile_append_of_pos hdigits,
    hcolon, List.append_nil]

/-- The fault of a port names that port and no other. -/
theorem cannotBind_inj {p p' : UInt16} {e e' : IoError}
    (h : s.cannotBind p e = s.cannotBind p' e') : p = p' := by
  simp only [cannotBind, Fault.config.injEq, String.append_assoc,
    String.append_right_inj] at h
  have hdigits : Nat.toDigits 10 p.toNat = Nat.toDigits 10 p'.toNat := by
    rw [← takeWhile_isDigit_number p e.text, h, takeWhile_isDigit_number]
  apply UInt16.toNat_inj.mp
  apply Nat.repr_injective
  rw [Nat.repr_eq_ofList_toDigits, hdigits, Nat.repr_eq_ofList_toDigits]

/-- The fault of a port is not that of the range. -/
theorem noFreePort_ne_cannotBind (p : UInt16) (e : IoError) :
    s.noFreePort ≠ s.cannotBind p e := by
  intro h
  simp only [noFreePort, cannotBind, Fault.config.injEq, String.append_assoc] at h
  have hfirst := congrArg (fun text => text.toList.head?) h
  simp only [String.toList_append] at hfirst
  have hletters : some 'n' = some 'c' := hfirst
  exact absurd hletters (by decide)

/-! ### The ports of the range -/

/-- So many ports from the given one on. -/
def portsFrom (first count : Nat) : List UInt16 :=
  (List.range' first count).map UInt16.ofNat

/-- The ports of the range, in order. -/
def ports (s : ServerSettings) : List UInt16 :=
  portsFrom s.basePort.toNat s.portRange.toNat

@[simp] theorem portsFrom_succ (first count : Nat) :
    portsFrom first (count + 1)
      = UInt16.ofNat first :: portsFrom (first + 1) count := rfl

/-- Up to the last port there is, the ports have the numbers that are counted. -/
theorem map_toNat_portsFrom {first count : Nat} (h : first + count ≤ UInt16.size) :
    (portsFrom first count).map UInt16.toNat = List.range' first count := by
  rw [portsFrom, List.map_map]
  refine (List.map_congr_left fun n hn => ?_).trans (List.map_id _)
  have hlt : n < first + count := (List.mem_range'_1.mp hn).2
  exact UInt16.toNat_ofNat_of_lt' (lt_of_lt_of_le hlt h)

/-- The range of valid settings ends at the last port there is, or before. -/
theorem range_le_of_validate {c : Config} (hvalid : c.validate = .ok ())
    (hopen : c.server.port = none) :
    c.server.basePort.toNat + c.server.portRange.toNat ≤ UInt16.size := by
  by_contra hbeyond
  have hflaw : .portRangeBeyondLast ∈ c.flaws := by
    simp only [Config.flaws, ServerSettings.flaws, hopen, List.mem_append,
      ConfigFlaw.mem_when_iff]
    simp [Nat.not_le.mp hbeyond]
  rw [Config.validate_ok_iff.mp hvalid] at hflaw
  cases hflaw

/-! ### The search -/

/-- Whether a try to bind the port says that it is in use. -/
def InUse (bind : UInt16 → Except IoError UInt16) (p : UInt16) : Prop :=
  ∃ e, bind p = .error e ∧ e.kind = .addressInUse

/-- Tries the ports of a list. -/
def tryAll (s : ServerSettings) (bind : UInt16 → Except IoError UInt16) :
    List UInt16 → PortSearch
  | [] => ⟨[], .error s.noFreePort⟩
  | p :: rest =>
    match bind p with
    | .ok bound => ⟨[p], .ok bound⟩
    | .error e =>
      if e.kind = .addressInUse then
        let rest := s.tryAll bind rest
        { rest with tried := p :: rest.tried }
      else ⟨[p], .error (s.cannotBind p e)⟩

/-- The counted search tries the ports from the given one on, as many as are
left and as there are. -/
theorem probe_eq_tryAll (s : ServerSettings)
    (bind : UInt16 → Except IoError UInt16) (left port : Nat) :
    s.probe bind left port
      = s.tryAll bind (portsFrom port (min left (65536 - port))) := by
  induction left generalizing port with
  | zero => simp [portsFrom, tryAll]
  | succ left ih =>
    by_cases hport : port < 65536
    · have hcount :
          min (left + 1) (65536 - port) = min left (65536 - (port + 1)) + 1 := by
        omega
      rw [hcount, portsFrom_succ]
      rcases hbind : bind (UInt16.ofNat port) with e | bound
      · simp only [probe_succ hport, tryAll, hbind, ih]
      · simp only [probe_succ hport, tryAll, hbind]
    · -- behind the last port the search ends, and the list has no more ports
      have hcount : min (left + 1) (65536 - port) = 0 := by omega
      rw [probe_succ_of_ge (Nat.not_lt.mp hport), hcount]
      rfl

/-- A range that ends at the last port there is, or before, is searched as a
whole. -/
theorem listen_eq_tryAll (hopen : s.port = none)
    (hrange : s.basePort.toNat + s.portRange.toNat ≤ UInt16.size) :
    s.listen bind = s.tryAll bind s.ports := by
  have hwhole :
      min s.portRange.toNat (65536 - s.basePort.toNat) = s.portRange.toNat :=
    min_eq_left (Nat.le_sub_of_add_le' hrange)
  rw [listen_of_none hopen, probe_eq_tryAll, hwhole, ports]

variable {used before after : List UInt16} {p : UInt16}

/-- Ports in use are tried and passed over. -/
theorem tryAll_append (hused : ∀ p ∈ used, InUse bind p) (rest : List UInt16) :
    s.tryAll bind (used ++ rest)
      = ⟨used ++ (s.tryAll bind rest).tried, (s.tryAll bind rest).result⟩ := by
  induction used with
  | nil => rfl
  | cons p used ih =>
    rw [List.forall_mem_cons] at hused
    obtain ⟨⟨e, he, hkind⟩, hused⟩ := hused
    rw [List.cons_append, tryAll, he]
    dsimp only
    rw [if_pos hkind, ih hused, List.cons_append]

/-- Where all ports are in use, all are tried. -/
theorem tryAll_of_used (hused : ∀ p ∈ used, InUse bind p) :
    s.tryAll bind used = ⟨used, .error s.noFreePort⟩ := by
  have happend := tryAll_append (s := s) hused []
  rw [List.append_nil] at happend
  rw [happend]
  exact congrArg (PortSearch.mk · _) (List.append_nil used)

/-- The first port that is not in use is the last one that is tried, and what
comes of it decides. -/
theorem tryAll_first (hused : ∀ p ∈ before, InUse bind p) (hp : ¬ InUse bind p) :
    s.tryAll bind (before ++ p :: after)
      = ⟨before ++ [p], (bind p).mapError (s.cannotBind p)⟩ := by
  have hdecides :
      s.tryAll bind (p :: after) = ⟨[p], (bind p).mapError (s.cannotBind p)⟩ := by
    rw [tryAll]
    rcases hbind : bind p with e | bound
    · have hkind : e.kind ≠ .addressInUse := fun hkind => hp ⟨e, hbind, hkind⟩
      dsimp only
      rw [if_neg hkind]
      rfl
    · rfl
  rw [tryAll_append hused, hdecides]

/-- Where not all ports are in use, there is a first one that is not. -/
theorem exists_first {ports : List UInt16} (h : ¬ ∀ p ∈ ports, InUse bind p) :
    ∃ before p after, ports = before ++ p :: after ∧
      (∀ p ∈ before, InUse bind p) ∧ ¬ InUse bind p := by
  classical
  rw [not_forall₂] at h
  obtain ⟨p, hp, hfree⟩ := h
  have hsome : (ports.find? fun p => ¬ InUse bind p).isSome = true := by
    rw [List.find?_isSome]
    exact ⟨p, hp, decide_eq_true hfree⟩
  obtain ⟨first, hfirst⟩ := Option.isSome_iff_exists.mp hsome
  obtain ⟨hnot, before, after, hsplit, hbefore⟩ :=
    List.find?_eq_some_iff_append.mp hfirst
  exact ⟨before, first, after, hsplit, fun q hq => by simpa using hbefore q hq,
    of_decide_eq_true hnot⟩

/-- The range has no free port if all its ports are in use, and for no other
reason. -/
theorem tryAll_eq_noFreePort_iff {ports : List UInt16} :
    (s.tryAll bind ports).result = .error s.noFreePort ↔
      ∀ p ∈ ports, InUse bind p := by
  constructor
  · intro hresult
    by_contra hfree
    obtain ⟨before, p, after, rfl, hused, hp⟩ := exists_first hfree
    rw [tryAll_first hused hp] at hresult
    rcases hbind : bind p with e | bound
    · rw [hbind] at hresult
      exact noFreePort_ne_cannotBind p e (Except.error.inj hresult).symm
    · rw [hbind] at hresult
      cases hresult
  · intro hused
    rw [tryAll_of_used hused]

/-- **The search for a port.** In valid settings without a fixed port the range is
so many successive ports, none beyond the last one there is. They are tried in
order: the first one that is not in use is the last one tried, and the federate
listens at what is bound for it, or fails with a fault that names it and no other
port. The fault of the range comes exactly if all its ports are in use. A fixed
port is tried once, and decides. -/
theorem listens_at_first_free (c : Config) (bind : UInt16 → Except IoError UInt16) :
    let s := c.server
    let search := s.listen bind
    (c.validate = .ok () → s.port = none →
      s.ports.map UInt16.toNat = List.range' s.basePort.toNat s.portRange.toNat ∧
      s.basePort.toNat + s.portRange.toNat ≤ 65536 ∧
      (∀ before p after, s.ports = before ++ p :: after →
        (∀ used ∈ before, InUse bind used) → ¬ InUse bind p →
        search.tried = before ++ [p] ∧
        (∀ bound, bind p = .ok bound → search.result = .ok bound) ∧
        (∀ e, bind p = .error e → search.result = .error (s.cannotBind p e))) ∧
      ((∀ p ∈ s.ports, InUse bind p) → search.tried = s.ports) ∧
      (search.result = .error s.noFreePort ↔ ∀ p ∈ s.ports, InUse bind p)) ∧
    (∀ p, s.port = some p →
      search.tried = [p] ∧
      (∀ bound, bind p = .ok bound → search.result = .ok bound) ∧
      (∀ e, bind p = .error e → search.result = .error (s.cannotBind p e))) ∧
    (∀ p p' e e', s.cannotBind p e = s.cannotBind p' e' → p = p') := by
  intro s search
  -- the last port that is tried decides
  have hdecides {p : UInt16}
      (hresult : search.result = (bind p).mapError (s.cannotBind p)) :
      (∀ bound, bind p = .ok bound → search.result = .ok bound) ∧
        (∀ e, bind p = .error e → search.result = .error (s.cannotBind p e)) := by
    rw [hresult]
    exact ⟨fun bound h => by rw [h]; rfl, fun e h => by rw [h]; rfl⟩
  refine
    ⟨fun hvalid hopen => ?_, fun p hfixed => ?_, fun p p' e e' => cannotBind_inj⟩
  · -- valid settings keep the range within the ports there are, so no number is
    -- cut off
    have hrange := range_le_of_validate hvalid hopen
    have hsearch : search = s.tryAll bind s.ports := listen_eq_tryAll hopen hrange
    refine ⟨map_toNat_portsFrom hrange, hrange,
      fun before p after hsplit hused hp => ?_, fun hused => ?_, ?_⟩
    · rw [hsplit, tryAll_first hused hp] at hsearch
      exact ⟨congrArg PortSearch.tried hsearch,
        hdecides (congrArg PortSearch.result hsearch)⟩
    · rw [hsearch, tryAll_of_used hused]
    · rw [hsearch]
      exact tryAll_eq_noFreePort_iff
  · have hsearch : search = ⟨[p], (bind p).mapError (s.cannotBind p)⟩ := by
      exact listen_of_some hfixed
    exact ⟨congrArg PortSearch.tried hsearch,
      hdecides (congrArg PortSearch.result hsearch)⟩

/-- Settings whose range is made of the last two ports there are. -/
def lastTwoPorts : Config where
  federate := ⟨1⟩
  federationId := "pair"
  server := { basePort := 65534, portRange := 2 }

/-- A host at which the last port but one is in use. -/
def bindUnlessUsed (p : UInt16) : Except IoError UInt16 :=
  if p = 65534 then .error .inUse else .ok p

/-- The last port of all is found behind the one in use, and where that is in
use as well, there is none. With the port in use for a fixed one, there is no
other. -/
theorem listens_at_first_free_of_lastTwoPorts :
    lastTwoPorts.validate = .ok () ∧ lastTwoPorts.server.port = none ∧
      (lastTwoPorts.server.listen bindUnlessUsed).tried = [65534, 65535] ∧
      (lastTwoPorts.server.listen bindUnlessUsed).result = .ok 65535 ∧
      (lastTwoPorts.server.listen fun _ => .error .inUse).result
        = .error lastTwoPorts.server.noFreePort ∧
      ((lastTwoPorts.withServerPort 65534).server.listen bindUnlessUsed).tried
        = [65534] := by
  have hvalid : lastTwoPorts.validate = .ok () := by decide
  obtain ⟨-, -, hfirst, -⟩ :=
    (listens_at_first_free lastTwoPorts bindUnlessUsed).1 hvalid rfl
  obtain ⟨-, -, -, -, hnone⟩ :=
    (listens_at_first_free lastTwoPorts fun _ => .error .inUse).1 hvalid rfl
  obtain ⟨hfixed, -⟩ :=
    (listens_at_first_free (lastTwoPorts.withServerPort 65534) bindUnlessUsed).2.1
      65534 rfl
  have hused : ∀ used ∈ [(65534 : UInt16)], InUse bindUnlessUsed used := by
    intro used h
    rw [List.mem_singleton.mp h]
    exact ⟨.inUse, rfl, rfl⟩
  have hfree : ¬ InUse bindUnlessUsed 65535 := nofun
  obtain ⟨htried, hbound, -⟩ := hfirst [65534] 65535 [] rfl hused hfree
  exact ⟨hvalid, rfl, htried, hbound 65535 rfl,
    hnone.mpr fun _ _ => ⟨.inUse, rfl, rfl⟩, hfixed⟩

end ServerSettings

end Federation
