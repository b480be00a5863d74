import LicenseAudit.Path
import LicenseAudit.Settings.YearMap

/-!
# Drafts and settings

Settings are put together in layers: defaults, settings files, the command line. A layer is a
draft, in which every setting may be absent. `Draft.overlay` puts one layer over another,
`Draft.freeze` fills in what is still absent, and `Settings.thaw` turns settings into a layer.
-/

namespace LicenseAudit

/-- Settings in the making. What is absent is taken from the layers below. -/
structure Draft where
  headerLicense : Option Path := none
  standaloneLicense : Option Path := none
  /-- Whether the standalone license is not checked. -/
  disableStandalone : Option Bool := none
  fix : Option Bool := none
  excludes : List Text := []
  useGitignore : Option Bool := none
  years : YearMap := .empty
  logFile : Option Path := none
  /-- The settings files that went into the draft. -/
  sources : List Path := []
  deriving DecidableEq, Repr, Inhabited

/-- The settings of a run. -/
structure Settings where
  /-- The template of the header. -/
  headerLicense : Path
  /-- The template of the standalone license; without one it is not checked. -/
  standaloneLicense : Option Path
  fix : Bool
  /-- Patterns of files to leave out. -/
  excludes : List Text
  /-- Whether the root's own ignore file counts. -/
  useGitignore : Bool
  /-- First copyright years of single files. -/
  years : YearMap
  logFile : Option Path
  /-- The settings files that went in. -/
  sources : List Path
  deriving DecidableEq, Repr, Inhabited

/-- The header template when none is named. -/
def defaultHeaderLicense : Path := ⟨[], ["licenses", "header.txt"]⟩

/-- The template of the standalone license when none is named. -/
def defaultStandaloneLicense : Path := ⟨[], ["licenses", "standalone.txt"]⟩

namespace Draft

/-- The lowest layer. -/
def defaults : Draft :=
  { headerLicense := some defaultHeaderLicense
    standaloneLicense := some defaultStandaloneLicense
    disableStandalone := some false
    fix := some false
    useGitignore := some true }

/-- The layer `upper` over the layer `lower`: what is set in `upper` counts, its excludes follow
those of `lower` unless they are there already, and its years go over those of `lower`. -/
def overlay (lower upper : Draft) : Draft where
  headerLicense := upper.headerLicense.or lower.headerLicense
  standaloneLicense := upper.standaloneLicense.or lower.standaloneLicense
  disableStandalone := upper.disableStandalone.or lower.disableStandalone
  fix := upper.fix.or lower.fix
  excludes := lower.excludes ++ upper.excludes.filter fun e => !lower.excludes.contains e
  useGitignore := upper.useGitignore.or lower.useGitignore
  years := lower.years.overlay upper.years
  logFile := upper.logFile.or lower.logFile
  sources := lower.sources ++ upper.sources

/-- The settings of a draft, with defaults for what is absent. -/
def freeze (d : Draft) : Settings where
  headerLicense := d.headerLicense.getD defaultHeaderLicense
  standaloneLicense :=
    if d.disableStandalone.getD false then none
    else some (d.standaloneLicense.getD defaultStandaloneLicense)
  fix := d.fix.getD false
  excludes := d.excludes
  useGitignore := d.useGitignore.getD true
  years := d.years
  logFile := d.logFile
  sources := d.sources

end Draft

/-- The layer that sets everything as the settings have it. -/
def Settings.thaw (s : Settings) : Draft where
  headerLicense := some s.headerLicense
  standaloneLicense := s.standaloneLicense
  disableStandalone := some s.standaloneLicense.isNone
  fix := some s.fix
  excludes := s.excludes
  useGitignore := some s.useGitignore
  years := s.years
  logFile := s.logFile
  sources := s.sources

end LicenseAudit
