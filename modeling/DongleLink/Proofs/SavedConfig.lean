import DongleLink.Proofs.ConfigText
import DongleLink.Proofs.MadeDirectories

/-!
# DongleLink.Proofs.SavedConfig

A configuration that was saved is loaded again as it was.

The document of the configuration is read back as it (`ofText_written`), and what is written to a
file is read from it (`read_put`), once the directories that are missing on the way to it are made
(`Way.makeParent`); between the two is only the encoding of texts as bytes.  What is loaded is then
overlaid with the environment and checked, which changes nothing if no variable is set and the
configuration was fit before.
-/

namespace DongleLink

namespace Host.Files

/-- A path leads to a file, or to where one can be put.  Its names but the last are a way from where
the path begins; the last one is that of a file, as no slash follows it; and where all of them lead
is a file, or nothing, now and when the missing directories are made.  Devices do not count; they
take what is written and give something else. -/
structure LeadsToFile (f : Files) (cwd : Place) (path : String) (names : List String)
    (name : String) (place : Place) (missing : List Place) : Prop where
  fault_eq : pathFault? path = none
  names_eq : namesOf path = names ++ [name]
  ne_dots : name ≠ ".."
  short : name.utf8ByteSize ≤ 255
  ends_eq : (path.endsWith "/" || path.endsWith "/.") = false
  way : Way f (origin cwd path) names place missing
  at_end : f.at? (place ++ [name]) = none ∧ place ++ [name] ∉ missing ∨
    ∃ contents, f.at? (place ++ [name]) = some (.file contents)

/-- A file can be written at a path. -/
def Writable (f : Files) (cwd : Place) (path : String) : Prop :=
  ∃ names name place missing, f.LeadsToFile cwd path names name place missing

/-- Once its directory is made, what is written to such a path is there to be read. -/
theorem Writable.exists_write {f : Files} {cwd : Place} {path : String} (h : f.Writable cwd path)
    (contents : List UInt8) :
    ∃ files written, f.makeParent cwd path = (.ok (), files) ∧
      files.write cwd path contents = .ok written ∧ written.read cwd path = .ok contents := by
  obtain ⟨names, name, place, missing, h⟩ := h
  obtain ⟨files, hparent, hmakes⟩ := h.way.makeParent h.fault_eq h.names_eq
  have htarget : files.target cwd path = .ok (place ++ [name]) :=
    target_of_names h.names_eq (h.way.follow hmakes.extends_ hmakes.made) h.fault_eq h.ne_dots
      h.short h.ends_eq
  have hplace : files.at? (place ++ [name]) = none ∨
      ∃ old, files.at? (place ++ [name]) = some (.file old) := by
    obtain ⟨hnone, hmade⟩ | ⟨old, hold⟩ := h.at_end
    · exact .inl ((hmakes.only _ hmade).trans hnone)
    · exact .inr ⟨old, hmakes.extends_ _ _ hold⟩
  have hdirectory : files.at? (place ++ [name]) ≠ some .directory := by
    obtain hnone | ⟨_, hfile⟩ := hplace
    · rw [hnone]
      exact nofun
    · rw [hfile]
      exact nofun
  refine ⟨files, files.put (place ++ [name]) (.file contents), hparent, ?_,
    read_put htarget hdirectory contents⟩
  rw [write, htarget]
  obtain hnone | ⟨_, hfile⟩ := hplace
  · simp only [hnone]
  · simp only [hfile]

end Host.Files

namespace Config

variable {c : Config} {h : Host} {path : String}

/-! ## Loading -/

/-- Variables that are not set override nothing. -/
theorem overriding_of_unset {e : Environment} {os : List Override}
    (hunset : ∀ o ∈ os, e.get? o.name = none) (c : Config) :
    overriding e os c = (.ok (), c) := by
  induction os with
  | nil => rfl
  | cons o os ih =>
      rw [List.forall_mem_cons] at hunset
      rw [overriding, hunset.1]
      exact ih hunset.2

theorem overridden_of_unset {e : Environment} (hunset : ∀ o ∈ overrides, e.get? o.name = none)
    (c : Config) : overridden e c = .ok c := by
  simp only [overridden, applyOverrides, overriding_of_unset hunset]

theorem effective_of_unset {e : Environment} (hunset : ∀ o ∈ overrides, e.get? o.name = none)
    (hcheck : c.check = .ok ()) : effective e c = .ok c := by
  simp only [effective, overridden_of_unset hunset, hcheck]

theorem loadFrom_of_read {text : String} (hread : h.files.read h.cwd path = .ok (bytesOfText text))
    (htext : ofText text = .ok c) (hunset : ∀ o ∈ overrides, h.environment.get? o.name = none)
    (hcheck : c.check = .ok ()) : loadFrom h path = .ok { path := some path, config := c } := by
  simp only [loadFrom, hread, ofContents, textOfBytes?_bytesOfText, htext,
    effective_of_unset hunset hcheck, Except.map]

/-! ## Saving -/

/-- A configuration without a document is not written: no file changes, and only directories are
made. -/
theorem extends_saving (hencode : c.encode? = none) :
    h.files.Extends (saving h path c).2.files := by
  have hparent := Host.Files.extends_makeParent h.files h.cwd path
  rw [saving]
  split
  next hmade =>
    rw [hmade] at hparent
    exact hparent
  next hmade =>
    rw [hmade] at hparent
    rw [hencode]
    exact hparent

/-- **A saved configuration is loaded as it was.**  Take a configuration that passes the check, a
path where a file can be written, even if directories are missing on its way, and an environment
that overrides nothing.  If the four numbers of the transport section have no more than 63 bits,
saving works, and loading the file from the same machine gives the configuration back.  Otherwise
saving ends in the error of a number that no document holds, and every file is as it was. -/
theorem loadFrom_saving (hcheck : c.check = .ok ())
    (hunset : ∀ o ∈ overrides, h.environment.get? o.name = none)
    (hpath : h.files.Writable h.cwd path) :
    (c.transport.Fits → ∃ saved, saving h path c = (.ok (), saved) ∧
      loadFrom saved path = .ok { path := some path, config := c }) ∧
    (¬ c.transport.Fits → (saving h path c).1 = .error .notWritable ∧
      ∀ other contents, h.files.read h.cwd other = .ok contents →
        (saving h path c).2.files.read h.cwd other = .ok contents) := by
  constructor
  · intro hfits
    have hencode := encode?_of_fits hfits
    obtain ⟨files, written, hparent, hwrite, hread⟩ :=
      hpath.exists_write (bytesOfText (String.ofList (Toml.documentOf c.written)))
    refine ⟨{ h with files := written }, ?_, ?_⟩
    · simp only [saving, hparent, hencode, hwrite]
    · exact loadFrom_of_read hread (ofText_written hfits) hunset hcheck
  · intro hfits
    have hencode := encode?_of_not_fits hfits
    refine ⟨?_, fun other contents hread => (extends_saving hencode).read hread⟩
    obtain ⟨files, -, hparent, -⟩ := hpath.exists_write []
    simp only [saving, hparent, hencode]

/-- A configuration with aliases that take every form of quoting, and escapes of every kind. -/
def manyQuotes : Config where
  serial.aliases :=
    { entries :=
        [("", "plain"), ("café", "it's"), ("it's", "say \"hi\""), ("\"'\\", "'\""),
          ("line\nend", "\n\"\"\"\\'''"), ("\x00\x7f\t", "\r\n\x1b"), ("a.b = [c] # d", "\\\r")]
      nodup := by decide }
  network.port := some 6638
  logging.level := "warn,link[\x7bid=\"é\"\x7d]=trace"

/-- The same with an interval of 64 bits. -/
def wideInterval : Config := { manyQuotes with transport.pollIntervalMs := 9223372036854775808 }

/-- A machine with a file in its working directory. -/
def oneFile : Host where
  files.nodes := [(["port.toml"], .file [35, 10])]

/-- The aliases above are loaded as they were saved, from a file in directories that were not there.
With one bit too many a file stays as it was. -/
theorem loadFrom_saving_manyQuotes :
    (∃ saved, saving oneFile "etc/link/port.toml" manyQuotes = (.ok (), saved) ∧
      loadFrom saved "etc/link/port.toml" =
        .ok { path := some "etc/link/port.toml", config := manyQuotes }) ∧
    (saving oneFile "port.toml" wideInterval).1 = .error .notWritable ∧
    (saving oneFile "port.toml" wideInterval).2.files.read [] "port.toml" = .ok [35, 10] := by
  have hunset : ∀ o ∈ overrides, oneFile.environment.get? o.name = none := fun o _ => rfl
  have hfault : Host.Files.pathFault? "port.toml" = none :=
    Host.Files.pathFault?_eq_none_iff.2 ⟨by decide, by decide, by decide +kernel⟩
  have hroot (path : String) : Host.Files.origin oneFile.cwd path = [] := ite_self []
  have hetc : oneFile.files.Way [] ["etc"] ["etc"] [["etc"]] :=
    @Host.Files.Way.toMake _ _ [] [] [] "etc" (.here rfl) (by decide) (by decide +kernel) rfl
  have hlink : oneFile.files.Way [] ["etc", "link"] ["etc", "link"] [["etc", "link"], ["etc"]] :=
    @Host.Files.Way.toMake _ _ ["etc"] ["etc"] _ "link" hetc (by decide) (by decide +kernel) rfl
  have hpath : oneFile.files.Writable oneFile.cwd "port.toml" :=
    ⟨[], "port.toml", [], [],
      { fault_eq := hfault
        names_eq := by decide +kernel
        ne_dots := by decide
        short := by decide +kernel
        ends_eq := by decide +kernel
        way := by
          rw [hroot]
          exact .here rfl
        at_end := .inr ⟨[35, 10], rfl⟩ }⟩
  have hdeep : oneFile.files.Writable oneFile.cwd "etc/link/port.toml" :=
    ⟨["etc", "link"], "port.toml", ["etc", "link"], [["etc", "link"], ["etc"]],
      { fault_eq :=
          Host.Files.pathFault?_eq_none_iff.2 ⟨by decide, by decide, by decide +kernel⟩
        names_eq := by decide +kernel
        ne_dots := by decide
        short := by decide +kernel
        ends_eq := by decide +kernel
        way := by
          rw [hroot]
          exact hlink
        at_end := .inl ⟨rfl, by decide⟩ }⟩
  have hread : oneFile.files.read [] "port.toml" = .ok [35, 10] := by
    have hwalk : oneFile.files.walk [] "port.toml" = .found ["port.toml"] (.file [35, 10]) :=
      Host.Files.walk_eq_found_iff.2 ⟨hfault, by decide +kernel, .inr (by decide +kernel)⟩
    rw [Host.Files.read, hwalk]
  have hcheck : manyQuotes.check = .ok () := by decide +kernel
  have hwideCheck : wideInterval.check = .ok () := by decide +kernel
  have hfits : manyQuotes.transport.Fits := ⟨by decide, by decide, by decide, by decide⟩
  have hwide : ¬ wideInterval.transport.Fits := fun h => absurd h.pollIntervalMs (by decide)
  obtain ⟨herror, hkept⟩ := (loadFrom_saving hwideCheck hunset hpath).2 hwide
  exact ⟨(loadFrom_saving hcheck hunset hdeep).1 hfits, herror, hkept "port.toml" _ hread⟩

end Config

end DongleLink
