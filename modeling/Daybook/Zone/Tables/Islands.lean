import Daybook.Zone.Tables.Shared

/-!
# The clocks of Atlantic and Indian Ocean islands

The recurring rules and the histories of the zones of this area, and the list of its zones by name.
-/

namespace Daybook.Zone.Tables

/-! ### Rules -/

/-- The rules of Bermuda. -/
def bermuda : List Rule :=
  [⟨1917, 1917, 4, .on 5, 86400, .wall, 3600⟩,
   ⟨1917, 1917, 9, .on 30, 86400, .wall, 0⟩,
   ⟨1918, 1918, 4, .on 13, 86400, .wall, 3600⟩,
   ⟨1918, 1918, 9, .on 15, 86400, .wall, 0⟩,
   ⟨1942, 1942, 1, .on 11, 7200, .wall, 3600⟩,
   ⟨1942, 1942, 10, .on 18, 7200, .wall, 0⟩,
   ⟨1943, 1943, 3, .on 21, 7200, .wall, 3600⟩,
   ⟨1943, 1943, 10, .on 31, 7200, .wall, 0⟩,
   ⟨1944, 1945, 3, .onOrAfter .sun 8, 7200, .wall, 3600⟩,
   ⟨1944, 1945, 11, .onOrAfter .sun 1, 7200, .wall, 0⟩,
   ⟨1947, 1947, 5, .onOrAfter .sun 15, 7200, .wall, 3600⟩,
   ⟨1947, 1947, 9, .onOrAfter .sun 8, 7200, .wall, 0⟩,
   ⟨1948, 1952, 5, .onOrAfter .sun 22, 7200, .wall, 3600⟩,
   ⟨1948, 1952, 9, .onOrAfter .sun 1, 7200, .wall, 0⟩,
   ⟨1956, 1956, 5, .onOrAfter .sun 22, 7200, .wall, 3600⟩,
   ⟨1956, 1956, 10, .last .sun, 7200, .wall, 0⟩]

/-- The rules of Falklands. -/
def falklands : List Rule :=
  [⟨1937, 1938, 9, .last .sun, 0, .wall, 3600⟩,
   ⟨1938, 1942, 3, .onOrAfter .sun 19, 0, .wall, 0⟩,
   ⟨1939, 1939, 10, .on 1, 0, .wall, 3600⟩,
   ⟨1940, 1942, 9, .last .sun, 0, .wall, 3600⟩,
   ⟨1943, 1943, 1, .on 1, 0, .wall, 0⟩,
   ⟨1983, 1983, 9, .last .sun, 0, .wall, 3600⟩,
   ⟨1984, 1985, 4, .last .sun, 0, .wall, 0⟩,
   ⟨1984, 1984, 9, .on 16, 0, .wall, 3600⟩,
   ⟨1985, 2000, 9, .onOrAfter .sun 9, 0, .wall, 3600⟩,
   ⟨1986, 2000, 4, .onOrAfter .sun 16, 0, .wall, 0⟩,
   ⟨2001, 2010, 4, .onOrAfter .sun 15, 7200, .wall, 0⟩,
   ⟨2001, 2010, 9, .onOrAfter .sun 1, 7200, .wall, 3600⟩]

/-- The rules of Mauritius. -/
def mauritius : List Rule :=
  [⟨1982, 1982, 10, .on 10, 0, .wall, 3600⟩,
   ⟨1983, 1983, 3, .on 21, 0, .wall, 0⟩,
   ⟨2008, 2008, 10, .last .sun, 7200, .wall, 3600⟩,
   ⟨2009, 2009, 3, .last .sun, 7200, .wall, 0⟩]

/-! ### Histories -/

/-- The history of Atlantic/Azores. -/
def atlanticAzores : List Era :=
  [⟨-6160, .fixed 0, some ⟨1884, 1, .on 1, 0, .wall⟩⟩,
   ⟨-6872, .fixed 0, some ⟨1912, 1, .on 1, 7200, .universal⟩⟩,
   ⟨-7200, .recurring portugal, some ⟨1942, 4, .on 25, 79200, .standard⟩⟩,
   ⟨-7200, .recurring portugal, some ⟨1942, 8, .on 15, 79200, .standard⟩⟩,
   ⟨-7200, .recurring portugal, some ⟨1943, 4, .on 17, 79200, .standard⟩⟩,
   ⟨-7200, .recurring portugal, some ⟨1943, 8, .on 28, 79200, .standard⟩⟩,
   ⟨-7200, .recurring portugal, some ⟨1944, 4, .on 22, 79200, .standard⟩⟩,
   ⟨-7200, .recurring portugal, some ⟨1944, 8, .on 26, 79200, .standard⟩⟩,
   ⟨-7200, .recurring portugal, some ⟨1945, 4, .on 21, 79200, .standard⟩⟩,
   ⟨-7200, .recurring portugal, some ⟨1945, 8, .on 25, 79200, .standard⟩⟩,
   ⟨-7200, .recurring portugal, some ⟨1966, 10, .on 2, 7200, .standard⟩⟩,
   ⟨-3600, .fixed 0, some ⟨1982, 3, .on 28, 0, .standard⟩⟩,
   ⟨-3600, .recurring portugal, some ⟨1986, 1, .on 1, 0, .wall⟩⟩,
   ⟨-3600, .recurring europeanUnion, some ⟨1992, 12, .on 27, 3600, .standard⟩⟩,
   ⟨0, .recurring europeanUnion, some ⟨1993, 6, .on 17, 3600, .universal⟩⟩,
   ⟨-3600, .recurring europeanUnion, none⟩]

/-- The history of Atlantic/Bermuda. -/
def atlanticBermuda : List Era :=
  [⟨-15558, .fixed 0, some ⟨1890, 1, .on 1, 0, .wall⟩⟩,
   ⟨-15558, .recurring bermuda, some ⟨1930, 1, .on 1, 7200, .wall⟩⟩,
   ⟨-14400, .recurring bermuda, some ⟨1974, 4, .on 28, 7200, .wall⟩⟩,
   ⟨-14400, .recurring canada, some ⟨1976, 1, .on 1, 0, .wall⟩⟩,
   ⟨-14400, .recurring unitedStates, none⟩]

/-- The history of Atlantic/Canary. -/
def atlanticCanary : List Era :=
  [⟨-3696, .fixed 0, some ⟨1922, 3, .on 1, 0, .wall⟩⟩,
   ⟨-3600, .fixed 0, some ⟨1946, 9, .on 30, 3600, .wall⟩⟩,
   ⟨0, .fixed 0, some ⟨1980, 4, .on 6, 0, .standard⟩⟩,
   ⟨0, .fixed 3600, some ⟨1980, 9, .on 28, 3600, .universal⟩⟩,
   ⟨0, .recurring europeanUnion, none⟩]

/-- The history of Atlantic/Cape_Verde. -/
def atlanticCapeVerde : List Era :=
  [⟨-5644, .fixed 0, some ⟨1912, 1, .on 1, 7200, .universal⟩⟩,
   ⟨-7200, .fixed 0, some ⟨1942, 9, .on 1, 0, .wall⟩⟩,
   ⟨-7200, .fixed 3600, some ⟨1945, 10, .on 15, 0, .wall⟩⟩,
   ⟨-7200, .fixed 0, some ⟨1975, 11, .on 25, 7200, .wall⟩⟩,
   ⟨-3600, .fixed 0, none⟩]

/-- The history of Atlantic/Faroe. -/
def atlanticFaroe : List Era :=
  [⟨-1624, .fixed 0, some ⟨1908, 1, .on 11, 0, .wall⟩⟩,
   ⟨0, .fixed 0, some ⟨1981, 1, .on 1, 0, .wall⟩⟩,
   ⟨0, .recurring europeanUnion, none⟩]

/-- The history of Atlantic/Madeira. -/
def atlanticMadeira : List Era :=
  [⟨-4056, .fixed 0, some ⟨1884, 1, .on 1, 0, .wall⟩⟩,
   ⟨-4056, .fixed 0, some ⟨1912, 1, .on 1, 3600, .universal⟩⟩,
   ⟨-3600, .recurring portugal, some ⟨1942, 4, .on 25, 79200, .standard⟩⟩,
   ⟨-3600, .recurring portugal, some ⟨1942, 8, .on 15, 79200, .standard⟩⟩,
   ⟨-3600, .recurring portugal, some ⟨1943, 4, .on 17, 79200, .standard⟩⟩,
   ⟨-3600, .recurring portugal, some ⟨1943, 8, .on 28, 79200, .standard⟩⟩,
   ⟨-3600, .recurring portugal, some ⟨1944, 4, .on 22, 79200, .standard⟩⟩,
   ⟨-3600, .recurring portugal, some ⟨1944, 8, .on 26, 79200, .standard⟩⟩,
   ⟨-3600, .recurring portugal, some ⟨1945, 4, .on 21, 79200, .standard⟩⟩,
   ⟨-3600, .recurring portugal, some ⟨1945, 8, .on 25, 79200, .standard⟩⟩,
   ⟨-3600, .recurring portugal, some ⟨1966, 10, .on 2, 7200, .standard⟩⟩,
   ⟨0, .fixed 0, some ⟨1982, 4, .on 4, 0, .wall⟩⟩,
   ⟨0, .recurring portugal, some ⟨1986, 7, .on 31, 0, .wall⟩⟩,
   ⟨0, .recurring europeanUnion, none⟩]

/-- The history of Atlantic/South_Georgia. -/
def atlanticSouthGeorgia : List Era :=
  [⟨-8768, .fixed 0, some ⟨1890, 1, .on 1, 0, .wall⟩⟩,
   ⟨-7200, .fixed 0, none⟩]

/-- The history of Atlantic/Stanley. -/
def atlanticStanley : List Era :=
  [⟨-13884, .fixed 0, some ⟨1890, 1, .on 1, 0, .wall⟩⟩,
   ⟨-13884, .fixed 0, some ⟨1912, 3, .on 12, 0, .wall⟩⟩,
   ⟨-14400, .recurring falklands, some ⟨1983, 5, .on 1, 0, .wall⟩⟩,
   ⟨-10800, .recurring falklands, some ⟨1985, 9, .on 15, 0, .wall⟩⟩,
   ⟨-14400, .recurring falklands, some ⟨2010, 9, .on 5, 7200, .wall⟩⟩,
   ⟨-10800, .fixed 0, none⟩]

/-- The history of Indian/Chagos. -/
def indianChagos : List Era :=
  [⟨17380, .fixed 0, some ⟨1907, 1, .on 1, 0, .wall⟩⟩,
   ⟨18000, .fixed 0, some ⟨1996, 1, .on 1, 0, .wall⟩⟩,
   ⟨21600, .fixed 0, none⟩]

/-- The history of Indian/Maldives. -/
def indianMaldives : List Era :=
  [⟨17640, .fixed 0, some ⟨1880, 1, .on 1, 0, .wall⟩⟩,
   ⟨17640, .fixed 0, some ⟨1960, 1, .on 1, 0, .wall⟩⟩,
   ⟨18000, .fixed 0, none⟩]

/-- The history of Indian/Mauritius. -/
def indianMauritius : List Era :=
  [⟨13800, .fixed 0, some ⟨1907, 1, .on 1, 0, .wall⟩⟩,
   ⟨14400, .recurring mauritius, none⟩]

/-- The zones of Atlantic and Indian Ocean islands by name. -/
def islandsZones : List (String × List Era) :=
  [("Atlantic/Azores", atlanticAzores),
   ("Atlantic/Bermuda", atlanticBermuda),
   ("Atlantic/Canary", atlanticCanary),
   ("Atlantic/Cape_Verde", atlanticCapeVerde),
   ("Atlantic/Faroe", atlanticFaroe),
   ("Atlantic/Madeira", atlanticMadeira),
   ("Atlantic/South_Georgia", atlanticSouthGeorgia),
   ("Atlantic/Stanley", atlanticStanley),
   ("Indian/Chagos", indianChagos),
   ("Indian/Maldives", indianMaldives),
   ("Indian/Mauritius", indianMauritius)]

end Daybook.Zone.Tables
