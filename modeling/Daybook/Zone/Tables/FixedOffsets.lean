import Daybook.Zone.Tables.Shared

/-!
# The clocks of fixed offsets

The recurring rules and the histories of the zones of this area, and the list of its zones by name.
-/

namespace Daybook.Zone.Tables

/-! ### Histories -/

/-- The history of Etc/GMT. -/
def etcGMT : List Era :=
  [⟨0, .fixed 0, none⟩]

/-- The history of Etc/GMT+1. -/
def etcGmtWest1 : List Era :=
  [⟨-3600, .fixed 0, none⟩]

/-- The history of Etc/GMT+10. -/
def etcGmtWest10 : List Era :=
  [⟨-36000, .fixed 0, none⟩]

/-- The history of Etc/GMT+11. -/
def etcGmtWest11 : List Era :=
  [⟨-39600, .fixed 0, none⟩]

/-- The history of Etc/GMT+12. -/
def etcGmtWest12 : List Era :=
  [⟨-43200, .fixed 0, none⟩]

/-- The history of Etc/GMT+2. -/
def etcGmtWest2 : List Era :=
  [⟨-7200, .fixed 0, none⟩]

/-- The history of Etc/GMT+3. -/
def etcGmtWest3 : List Era :=
  [⟨-10800, .fixed 0, none⟩]

/-- The history of Etc/GMT+4. -/
def etcGmtWest4 : List Era :=
  [⟨-14400, .fixed 0, none⟩]

/-- The history of Etc/GMT+5. -/
def etcGmtWest5 : List Era :=
  [⟨-18000, .fixed 0, none⟩]

/-- The history of Etc/GMT+6. -/
def etcGmtWest6 : List Era :=
  [⟨-21600, .fixed 0, none⟩]

/-- The history of Etc/GMT+7. -/
def etcGmtWest7 : List Era :=
  [⟨-25200, .fixed 0, none⟩]

/-- The history of Etc/GMT+8. -/
def etcGmtWest8 : List Era :=
  [⟨-28800, .fixed 0, none⟩]

/-- The history of Etc/GMT+9. -/
def etcGmtWest9 : List Era :=
  [⟨-32400, .fixed 0, none⟩]

/-- The history of Etc/GMT-1. -/
def etcGmtEast1 : List Era :=
  [⟨3600, .fixed 0, none⟩]

/-- The history of Etc/GMT-10. -/
def etcGmtEast10 : List Era :=
  [⟨36000, .fixed 0, none⟩]

/-- The history of Etc/GMT-11. -/
def etcGmtEast11 : List Era :=
  [⟨39600, .fixed 0, none⟩]

/-- The history of Etc/GMT-12. -/
def etcGmtEast12 : List Era :=
  [⟨43200, .fixed 0, none⟩]

/-- The history of Etc/GMT-13. -/
def etcGmtEast13 : List Era :=
  [⟨46800, .fixed 0, none⟩]

/-- The history of Etc/GMT-14. -/
def etcGmtEast14 : List Era :=
  [⟨50400, .fixed 0, none⟩]

/-- The history of Etc/GMT-2. -/
def etcGmtEast2 : List Era :=
  [⟨7200, .fixed 0, none⟩]

/-- The history of Etc/GMT-3. -/
def etcGmtEast3 : List Era :=
  [⟨10800, .fixed 0, none⟩]

/-- The history of Etc/GMT-4. -/
def etcGmtEast4 : List Era :=
  [⟨14400, .fixed 0, none⟩]

/-- The history of Etc/GMT-5. -/
def etcGmtEast5 : List Era :=
  [⟨18000, .fixed 0, none⟩]

/-- The history of Etc/GMT-6. -/
def etcGmtEast6 : List Era :=
  [⟨21600, .fixed 0, none⟩]

/-- The history of Etc/GMT-7. -/
def etcGmtEast7 : List Era :=
  [⟨25200, .fixed 0, none⟩]

/-- The history of Etc/GMT-8. -/
def etcGmtEast8 : List Era :=
  [⟨28800, .fixed 0, none⟩]

/-- The history of Etc/GMT-9. -/
def etcGmtEast9 : List Era :=
  [⟨32400, .fixed 0, none⟩]

/-- The history of Etc/UTC. -/
def etcUTC : List Era :=
  [⟨0, .fixed 0, none⟩]

/-- The zones of fixed offsets by name. -/
def fixedOffsetsZones : List (String × List Era) :=
  [("Etc/GMT", etcGMT),
   ("Etc/GMT+1", etcGmtWest1),
   ("Etc/GMT+10", etcGmtWest10),
   ("Etc/GMT+11", etcGmtWest11),
   ("Etc/GMT+12", etcGmtWest12),
   ("Etc/GMT+2", etcGmtWest2),
   ("Etc/GMT+3", etcGmtWest3),
   ("Etc/GMT+4", etcGmtWest4),
   ("Etc/GMT+5", etcGmtWest5),
   ("Etc/GMT+6", etcGmtWest6),
   ("Etc/GMT+7", etcGmtWest7),
   ("Etc/GMT+8", etcGmtWest8),
   ("Etc/GMT+9", etcGmtWest9),
   ("Etc/GMT-1", etcGmtEast1),
   ("Etc/GMT-10", etcGmtEast10),
   ("Etc/GMT-11", etcGmtEast11),
   ("Etc/GMT-12", etcGmtEast12),
   ("Etc/GMT-13", etcGmtEast13),
   ("Etc/GMT-14", etcGmtEast14),
   ("Etc/GMT-2", etcGmtEast2),
   ("Etc/GMT-3", etcGmtEast3),
   ("Etc/GMT-4", etcGmtEast4),
   ("Etc/GMT-5", etcGmtEast5),
   ("Etc/GMT-6", etcGmtEast6),
   ("Etc/GMT-7", etcGmtEast7),
   ("Etc/GMT-8", etcGmtEast8),
   ("Etc/GMT-9", etcGmtEast9),
   ("Etc/UTC", etcUTC)]

end Daybook.Zone.Tables
