import DongleLink.Proofs.Overlay

/-!
# DongleLink.Proofs.EntryPoints

Three ways to a configuration: a certain file, the file in the first place where something is, and
the standard values without a file.  Each goes its own way through the overrides and the check.
That they agree comes down to the document without a line, whose configuration is the standard one
(`ofContents_nil`), so that starting without a file is the same as starting from an empty one.

The third way passes over whatever cannot be used.  It cannot pass over a log filter that cannot be
taken apart, for then the check does not come back; this is the one case in which it gives no
configuration.
-/

namespace DongleLink.Config

variable {h : Host} {path : String} {c : Config}

/-! ## Where the ways begin -/

/-- The configuration of an empty file is the standard one. -/
theorem ofContents_nil (path : String) : ofContents path (.ok []) = .ok {} := rfl

theorem loadFrom_of_empty (hempty : h.files.read h.cwd path = .ok []) :
    loadFrom h path =
      (effective h.environment {}).map fun c => { path := some path, config := c } :=
  loadFrom_of_contents (hempty ▸ ofContents_nil path)

/-- What is found is loaded as if it had been named. -/
theorem load_of_found (hpath : resolvePath h = some path) : load h = loadFrom h path := by
  simp only [load, hpath, loadFrom]

/-- Where nothing is found, the standard values are overlaid. -/
theorem load_of_unfound (hpath : resolvePath h = none) :
    load h = (effective h.environment {}).map fun c => { path := none, config := c } := by
  simp only [load, hpath]

/-- The standard values replace what cannot be used, but the check has to come back. -/
theorem withDefaults_eq (h : Host) :
    withDefaults h =
      match effective h.environment {} with
      | .ok c => .ok { path := none, config := c }
      | .error (.unfit (.brokenFilter complaint)) => .error (.unfit (.brokenFilter complaint))
      | .error _ => .ok { path := none, config := {} } := by
  rw [withDefaults, effective, overridden, applyOverrides]
  cases overriding h.environment overrides {} with
  | mk result candidate =>
      cases result with
      | error bad => rfl
      | ok u =>
          cases hcheck : candidate.check with
          | ok u => simp [hcheck]
          | error reason => cases reason <;> simp [hcheck]

/-- An error gives the standard values, if loading concludes with it. -/
theorem withDefaults_of_error {err : ConfigError}
    (herr : effective h.environment {} = .error err)
    (hends : Concludes (effective h.environment {})) :
    withDefaults h = .ok { path := none, config := {} } := by
  rw [withDefaults_eq]
  split
  next d hd =>
    rw [hd] at herr
    cases herr
  next complaint hbroken => exact absurd hbroken (hends complaint)
  next => rfl

theorem concludes_withDefaults :
    Concludes (withDefaults h) ↔ Concludes (effective h.environment {}) := by
  rw [withDefaults_eq]
  split
  next d hd => simp [Concludes, hd]
  next complaint hbroken => simp [Concludes, hbroken]
  next err hnot herr => simpa [Concludes, herr] using hnot

/-! ## What they end in -/

section check

variable {l : Loaded}

theorem effective_of_map {e : Environment} {from? : Option String}
    (heq : (effective e c).map (fun c => { path := from?, config := c }) = .ok l) :
    effective e c = .ok l.config ∧ l.path = from? := by
  cases heffective : effective e c with
  | error err =>
      rw [heffective] at heq
      cases heq
  | ok d =>
      rw [heffective] at heq
      cases heq
      exact ⟨rfl, rfl⟩

/-- What a way through the overrides and the check ends in has been checked. -/
theorem check_of_effective {e : Environment} {from? : Option String}
    (heq : (effective e c).map (fun c => { path := from?, config := c }) = .ok l) :
    l.path = from? ∧ l.config.check = .ok () := by
  obtain ⟨heffective, hfrom⟩ := effective_of_map heq
  obtain ⟨-, hfaults, hconfig⟩ := effective_eq_ok_iff.1 heffective
  rw [← hconfig] at hfaults
  refine ⟨hfrom, ?_⟩
  rw [check_eq, hfaults]
  rfl

theorem check_of_loadFrom (heq : loadFrom h path = .ok l) :
    l.path = some path ∧ l.config.check = .ok () := by
  rw [loadFrom] at heq
  split at heq
  · cases heq
  · exact check_of_effective heq

theorem check_of_load (heq : load h = .ok l) :
    l.path = resolvePath h ∧ l.config.check = .ok () := by
  cases hpath : resolvePath h with
  | none => exact check_of_effective (load_of_unfound hpath ▸ heq)
  | some path => exact check_of_loadFrom (load_of_found hpath ▸ heq)

theorem check_of_withDefaults (heq : withDefaults h = .ok l) :
    l.path = none ∧ l.config.check = .ok () := by
  rw [withDefaults_eq] at heq
  split at heq
  next d heffective => exact check_of_effective ((congrArg _ heffective).trans heq)
  · cases heq
  · cases heq
    exact ⟨rfl, rfl⟩

end check

/-- **The ways to a configuration agree.**  Loading without a name gives what loading the file in
the first place where something is gives, and names that file.  Where there is no such place it
gives what an empty file gives in the same environment, and names none.  The standard values with
overrides are what an empty file gives, if that is a configuration; they are exactly the standard
values if it is an error, however many overrides were taken before; and they are not to be had where
loading does not conclude.  Whatever configuration comes out has passed the check. -/
theorem entryPoints_agree (h : Host) :
    (∀ path, resolvePath h = some path →
      load h = loadFrom h path ∧ ∀ l, load h = .ok l → l.path = some path) ∧
    (∀ other path, other.environment = h.environment →
      other.files.read other.cwd path = .ok [] →
      (resolvePath h = none →
        load h = (loadFrom other path).map fun l => { path := none, config := l.config }) ∧
      (∀ l, loadFrom other path = .ok l →
        withDefaults h = .ok { path := none, config := l.config }) ∧
      (∀ err, loadFrom other path = .error err → Concludes (loadFrom other path) →
        withDefaults h = .ok { path := none, config := {} }) ∧
      (Concludes (withDefaults h) ↔ Concludes (loadFrom other path))) ∧
    ∀ l, load h = .ok l ∨ (∃ path, loadFrom h path = .ok l) ∨ withDefaults h = .ok l →
      l.config.check = .ok () := by
  refine ⟨fun path hpath => ?_, fun other path henv hempty => ?_, fun l hl => ?_⟩
  · have hload := load_of_found hpath
    exact ⟨hload, fun l hl => (check_of_loadFrom (hload ▸ hl)).1⟩
  · have hfrom := loadFrom_of_empty hempty
    rw [henv] at hfrom
    rw [hfrom, concludes_map, concludes_withDefaults]
    refine ⟨fun hpath => ?_, ?_⟩
    · rw [load_of_unfound hpath]
      cases effective h.environment {} <;> rfl
    · cases heffective : effective h.environment {} with
      | ok d =>
          refine ⟨fun l hl => ?_, nofun, Iff.rfl⟩
          cases hl
          rw [withDefaults_eq, heffective]
      | error err =>
          rw [← heffective]
          refine ⟨fun l hl => ?_, fun _ _ hends => withDefaults_of_error heffective hends, Iff.rfl⟩
          rw [heffective] at hl
          cases hl
  · obtain hl | ⟨path, hl⟩ | hl := hl
    · exact (check_of_load hl).2
    · exact (check_of_loadFrom hl).2
    · exact (check_of_withDefaults hl).2

/-! ### On machines -/

/-- Overrides of which the second cannot be understood. -/
def halfUnderstood : List (String × String) :=
  [("ZIGBEE_PORT_TRANSPORT_RX_BUFFER_CAPACITY", "1024"),
    ("ZIGBEE_PORT_TRANSPORT_CHUNK_SIZE", "many")]

/-- A variable that names the file. -/
def namedFile : List (String × String) := [("ZIGBEE_PORT_CONFIG", "port.toml")]

theorem resolvePath_namedFile (text : String) :
    resolvePath (machine text namedFile) = some "port.toml" := by
  have hplaces : candidates (machine text namedFile).environment = ["port.toml", localName] := by
    have hsame : (machine text namedFile).environment = (machine "" namedFile).environment := rfl
    rw [hsame]
    decide +kernel
  have hexists :
      (machine text namedFile).files.exists? (machine text namedFile).cwd "port.toml" = true := by
    rw [Host.Files.exists?, show (machine text namedFile).cwd = [] from rfl, walk_machine_file]
  rw [resolvePath, hplaces, List.find?_cons_of_pos hexists]

/-- The file of a machine is not found where nobody looks for it. -/
theorem resolvePath_machine (text : String) (vars : List (String × String))
    (hplaces : candidates (machine text vars).environment = [localName]) :
    resolvePath (machine text vars) = none := by
  have hfault : Host.Files.pathFault? localName = none := by
    have hzero : localName.contains '\x00' = false := by simp [localName]
    rw [Host.Files.pathFault?, hzero]
    decide +kernel
  have hwalk := walk_machine hfault (by decide +kernel) (by decide) (by decide) (by decide +kernel)
    text vars
  have hmissing : (machine text vars).files.exists? (machine text vars).cwd localName = false := by
    rw [Host.Files.exists?, show (machine text vars).cwd = [] from rfl, hwalk]
    rfl
  rw [resolvePath, hplaces, List.find?_singleton, hmissing]
  rfl

/-- A file that is named is loaded; without one, and with a variable that cannot be understood,
loading fails and the standard values remain. -/
theorem entryPoints_agree_halfUnderstood :
    (resolvePath (machine "" namedFile) = some "port.toml" ∧
        load (machine "" namedFile) = loadFrom (machine "" namedFile) "port.toml" ∧
        load (machine "" namedFile) = .ok { path := some "port.toml", config := {} }) ∧
      (machine "" halfUnderstood).files.read [] "port.toml" = .ok [] ∧
      resolvePath (machine "" halfUnderstood) = none ∧
      load (machine "" halfUnderstood) =
        .error (.badOverride
          { name := "ZIGBEE_PORT_TRANSPORT_CHUNK_SIZE", value := "many", wanted := "chunk size" }) ∧
      withDefaults (machine "" halfUnderstood) = .ok { path := none, config := {} } := by
  have hnamed := resolvePath_namedFile ""
  have hload := ((entryPoints_agree (machine "" namedFile)).1 "port.toml" hnamed).1
  have heffective : effective (machine "" namedFile).environment {} = .ok {} :=
    effective_eq_ok_iff.2 ⟨by decide +kernel, by decide +kernel, by decide +kernel⟩
  have hstandard : loadFrom (machine "" namedFile) "port.toml" =
      .ok { path := some "port.toml", config := {} } := by
    rw [loadFrom_of_empty (read_machine "" namedFile), heffective]
    rfl
  have hread := read_machine "" halfUnderstood
  have hpath := resolvePath_machine "" halfUnderstood (by decide +kernel)
  let bad : BadOverride :=
    { name := "ZIGBEE_PORT_TRANSPORT_CHUNK_SIZE", value := "many", wanted := "chunk size" }
  have hbad : misread? (machine "" halfUnderstood).environment = some bad := by decide +kernel
  have hfrom : loadFrom (machine "" halfUnderstood) "port.toml" = .error (.badOverride bad) := by
    rw [loadFrom_of_empty hread, effective_eq, hbad]
    rfl
  obtain ⟨-, hagree, -⟩ := entryPoints_agree (machine "" halfUnderstood)
  obtain ⟨hunfound, -, herror, -⟩ := hagree (machine "" halfUnderstood) "port.toml" rfl hread
  refine ⟨⟨hnamed, hload, hload.trans hstandard⟩, hread, hpath, ?_, herror _ hfrom ?_⟩
  · rw [hunfound hpath, hfrom]
    rfl
  · rw [hfrom]
    exact nofun

/-- With a filter that cannot be taken apart there is no configuration at all, not even the
standard one. -/
theorem withDefaults_shiftedFilter :
    (machine "" shiftedFilter).files.read [] "port.toml" = .ok [] ∧
      (∀ l, loadFrom (machine "" shiftedFilter) "port.toml" ≠ .ok l) ∧
      withDefaults (machine "" shiftedFilter) ≠ .ok { path := none, config := {} } := by
  have hread := read_machine "" shiftedFilter
  have hbroken := not_concludes_effective_shiftedFilter
  refine ⟨hread, fun l hl => ?_, fun hdefaults => ?_⟩
  · rw [loadFrom_of_empty hread] at hl
    have hends : Concludes (loadFrom (machine "" shiftedFilter) "port.toml") := by
      rw [loadFrom_of_empty hread, hl]
      exact nofun
    rw [loadFrom_of_empty hread, concludes_map] at hends
    exact hbroken hends
  · refine hbroken (concludes_withDefaults.1 ?_)
    rw [hdefaults]
    exact nofun

end DongleLink.Config
