import BuildTriage.Proofs.Triage.Frame
import Mathlib.Algebra.Ring.Nat

/-!
# Which builds are scanned

A build that has completed is looked at once: whether it succeeded, whether its result is one to
look into, whether it was scanned before, and how long its log is, in this order. The length of a
log is kept with its build as a word and compared with a limit in megabytes. The length does not
wrap round as long as the log fits in memory, and in bytes the limit is a word if it is below
`2 ^ 44`.
-/

namespace BuildTriage

/-- How many bytes a log has, with a new line after each of its lines. -/
def logBytes (log : List String) : Nat := (log.map fun line => line.utf8ByteSize + 1).sum

namespace BuildRecord

/-- Adding the lines of a log up does not wrap round where their sum fits. -/
theorem toNat_foldl_lines (log : List String) (n : UInt64) (h : n.toNat + logBytes log < 2 ^ 64) :
    (log.foldl (fun n line => n + (UInt64.ofNat line.utf8ByteSize + 1)) n).toNat =
      n.toNat + logBytes log := by
  induction log generalizing n with
  | nil => rfl
  | cons line rest ih =>
    have hbytes : logBytes (line :: rest) = line.utf8ByteSize + 1 + logBytes rest := rfl
    have hnext : (n + (UInt64.ofNat line.utf8ByteSize + 1)).toNat =
        n.toNat + (line.utf8ByteSize + 1) := by
      rw [UInt64.toNat_add, UInt64.toNat_add, UInt64.toNat_ofNat']
      have hone : (1 : UInt64).toNat = 1 := rfl
      omega
    rw [List.foldl_cons, ih _ (by omega), hnext]
    omega

/-- The size that is kept of a log is how many bytes it has. -/
theorem toNat_logSize {log : List String} (h : logBytes log < 2 ^ 64) :
    (logSize log).toNat = logBytes log := by
  have hsum := toNat_foldl_lines log 0 (by simpa using h)
  rw [logSize, hsum]
  exact Nat.zero_add _

end BuildRecord

namespace BuildStore

/-- A store that came about by entering builds with logs that fit in memory, and by attaching
causes to them or forgetting those that they had. -/
inductive Reached : BuildStore → Prop where
  | empty : Reached .empty
  | insert {s : BuildStore} (h : Reached s) (info : BuildInfo) (log : List String)
    (hfits : logBytes log < 2 ^ 64) : Reached (s.insert info log)
  | setFound {s s' : BuildStore} (h : Reached s) (b : BuildRef) (found : Option (List FoundCause))
    (hs : s.setFound b found = .ok s') : Reached s'

/-- The size that is kept of every log is how many bytes it has. -/
theorem Reached.toNat_logSize {s : BuildStore} (h : s.Reached) :
    ∀ r ∈ s.records, r.info.logSize.toNat = logBytes r.log := by
  induction h with
  | empty => exact nofun
  | insert _ info log hfits ih =>
    intro r hr
    rcases mem_place hr with rfl | hold
    · exact BuildRecord.toNat_logSize hfits
    · exact ih r hold
  | setFound _ b found hs ih =>
    obtain ⟨-, rfl⟩ := exists_of_setFound hs
    intro r hr
    obtain ⟨old, hold, rfl⟩ := List.mem_map.mp hr
    have hsize := ih old hold
    split
    · exact hsize
    · exact hsize

end BuildStore

/-- The outcome of a call for a completed build, from what is known of the build. -/
inductive Ruling (s : ScannerSettings) (r : BuildRecord) : Outcome → Prop where
  | successful (hresult : r.info.result = .success) : Ruling s r .successful
  | filtered (hresult : r.info.result ≠ .success)
    (hfilter : r.info.result.needsAnalysis s.skipAborted = false) :
    Ruling s r (.filtered r.info.result)
  | alreadyScanned (hresult : r.info.result ≠ .success)
    (hfilter : r.info.result.needsAnalysis s.skipAborted = true) (hfound : r.found ≠ none) :
    Ruling s r .alreadyScanned
  | logTooLarge (hresult : r.info.result ≠ .success)
    (hfilter : r.info.result.needsAnalysis s.skipAborted = true) (hfound : r.found = none)
    (hlimit : 0 < s.maxLogSizeMb.toNat)
    (hlarge : s.maxLogSizeMb.toNat * 2 ^ 20 < logBytes r.log) {size limit : UInt64}
    (hsize : size.toNat = logBytes r.log) (hbytes : limit.toNat = s.maxLogSizeMb.toNat * 2 ^ 20) :
    Ruling s r (.logTooLarge size limit)
  | scanned (hresult : r.info.result ≠ .success)
    (hfilter : r.info.result.needsAnalysis s.skipAborted = true) (hfound : r.found = none)
    (hsmall : s.maxLogSizeMb.toNat = 0 ∨ logBytes r.log ≤ s.maxLogSizeMb.toNat * 2 ^ 20)
    (found : List FoundCause) : Ruling s r (.scanned found)

section Product

variable {a b : UInt64}

/-- The product of two words is that of their numbers, where it is one. -/
theorem product?_eq_some (h : a.toNat * b.toNat < 2 ^ 64) :
    ∃ c, product? a b = some c ∧ c.toNat = a.toNat * b.toNat :=
  ⟨a * b, if_pos h, by rw [UInt64.toNat_mul, Nat.mod_eq_of_lt h]⟩

theorem product?_eq_none (h : 2 ^ 64 ≤ a.toNat * b.toNat) : product? a b = none :=
  if_neg (Nat.not_lt_of_le h)

end Product

namespace ScannerSettings

variable {s : ScannerSettings}

/-- The limit in bytes comes to a word below `2 ^ 44` megabytes. -/
theorem logLimit?_eq_some (h : s.maxLogSizeMb.toNat < 2 ^ 44) :
    ∃ limit, s.logLimit? = some limit ∧ limit.toNat = s.maxLogSizeMb.toNat * 2 ^ 20 := by
  have hkilo : (1024 : UInt64).toNat = 1024 := rfl
  obtain ⟨kilobytes, hfirst, hkilobytes⟩ :=
    product?_eq_some (a := s.maxLogSizeMb) (b := 1024) (by rw [hkilo]; omega)
  obtain ⟨limit, hsecond, hlimit⟩ :=
    product?_eq_some (a := kilobytes) (b := 1024) (by rw [hkilobytes, hkilo]; omega)
  refine ⟨limit, ?_, ?_⟩
  · rw [logLimit?, hfirst]
    exact hsecond
  · rw [hlimit, hkilobytes, hkilo]
    omega

/-- From there on it does not. -/
theorem logLimit?_eq_none (h : 2 ^ 44 ≤ s.maxLogSizeMb.toNat) : s.logLimit? = none := by
  have hkilo : (1024 : UInt64).toNat = 1024 := rfl
  rw [logLimit?]
  by_cases hfirst : s.maxLogSizeMb.toNat * (1024 : UInt64).toNat < 2 ^ 64
  · obtain ⟨kilobytes, hproduct, hkilobytes⟩ := product?_eq_some hfirst
    rw [hproduct]
    exact product?_eq_none (by rw [hkilobytes, hkilo]; omega)
  · rw [product?_eq_none (Nat.le_of_not_lt hfirst)]
    rfl

end ScannerSettings

/-- A build is spared as it is ruled. -/
theorem ruling_of_spared {s : ScannerSettings} {r : BuildRecord} {reason : Outcome}
    (hsize : r.info.logSize.toNat = logBytes r.log) (hlimit : s.maxLogSizeMb.toNat < 2 ^ 44)
    (h : s.spared? r.info r.found = some reason) :
    Ruling s r reason ∧ ∀ found, reason ≠ .scanned found := by
  unfold ScannerSettings.spared? at h
  split at h
  · next hresult =>
    obtain rfl := Option.some.inj h
    exact ⟨.successful hresult, nofun⟩
  · next hresult =>
    split at h
    · next hfilter =>
      obtain rfl := Option.some.inj h
      exact ⟨.filtered hresult (by simpa using hfilter), nofun⟩
    · next hfilter =>
      have hneeds : r.info.result.needsAnalysis s.skipAborted = true := by simpa using hfilter
      split at h
      · next hfound =>
        obtain rfl := Option.some.inj h
        exact ⟨.alreadyScanned hresult hneeds (Option.isSome_iff_ne_none.mp hfound), nofun⟩
      · next hfound =>
        have hnone : r.found = none := Option.not_isSome_iff_eq_none.mp hfound
        split at h
        · exact absurd h nofun
        · next hmb =>
          obtain ⟨limit, hword, hbytes⟩ := ScannerSettings.logLimit?_eq_some hlimit
          rw [hword] at h
          dsimp only at h
          split at h
          · next hlarge =>
            obtain rfl := Option.some.inj h
            rw [UInt64.lt_iff_toNat_lt, hbytes, hsize] at hlarge
            have hpositive : 0 < s.maxLogSizeMb.toNat :=
              Nat.pos_of_ne_zero fun hzero => hmb (UInt64.toNat_inj.mp hzero)
            exact ⟨.logTooLarge hresult hneeds hnone hpositive hlarge hsize hbytes, nofun⟩
          · exact absurd h nofun

/-- A build that is not spared is ruled to be scanned. -/
theorem ruling_of_unspared {s : ScannerSettings} {r : BuildRecord}
    (hsize : r.info.logSize.toNat = logBytes r.log) (hlimit : s.maxLogSizeMb.toNat < 2 ^ 44)
    (h : s.spared? r.info r.found = none) (found : List FoundCause) :
    Ruling s r (.scanned found) := by
  unfold ScannerSettings.spared? at h
  split at h
  · exact absurd h nofun
  · next hresult =>
    split at h
    · exact absurd h nofun
    · next hfilter =>
      have hneeds : r.info.result.needsAnalysis s.skipAborted = true := by simpa using hfilter
      split at h
      · exact absurd h nofun
      · next hfound =>
        have hnone : r.found = none := Option.not_isSome_iff_eq_none.mp hfound
        refine .scanned hresult hneeds hnone ?_ found
        split at h
        · next hmb =>
          left
          rw [hmb]
          rfl
        · right
          obtain ⟨limit, hword, hbytes⟩ := ScannerSettings.logLimit?_eq_some hlimit
          rw [hword] at h
          dsimp only at h
          split at h
          · exact absurd h nofun
          · next hsmall =>
            rw [UInt64.lt_iff_toNat_lt, hbytes, hsize] at hsmall
            exact Nat.le_of_not_lt hsmall

end BuildTriage
