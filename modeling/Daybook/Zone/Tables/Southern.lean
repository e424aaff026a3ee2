import Daybook.Zone.Tables.Shared

/-!
# The clocks of Australia and Antarctica

The recurring rules and the histories of the zones of this area, and the list of its zones by name.
-/

namespace Daybook.Zone.Tables

/-! ### Rules -/

/-- The rules of Australia. -/
def australia : List Rule :=
  [⟨1917, 1917, 1, .on 1, 7200, .standard, 3600⟩,
   ⟨1917, 1917, 3, .last .sun, 7200, .standard, 0⟩,
   ⟨1942, 1942, 1, .on 1, 7200, .standard, 3600⟩,
   ⟨1942, 1942, 3, .last .sun, 7200, .standard, 0⟩,
   ⟨1942, 1942, 9, .on 27, 7200, .standard, 3600⟩,
   ⟨1943, 1944, 3, .last .sun, 7200, .standard, 0⟩,
   ⟨1943, 1943, 10, .on 3, 7200, .standard, 3600⟩]

/-- The rules of Holiday. -/
def holiday : List Rule :=
  [⟨1992, 1993, 10, .last .sun, 7200, .standard, 3600⟩,
   ⟨1993, 1994, 3, .onOrAfter .sun 1, 7200, .standard, 0⟩]

/-- The rules of Lord Howe. -/
def lordHowe : List Rule :=
  [⟨1981, 1984, 10, .last .sun, 7200, .wall, 3600⟩,
   ⟨1982, 1985, 3, .onOrAfter .sun 1, 7200, .wall, 0⟩,
   ⟨1985, 1985, 10, .last .sun, 7200, .wall, 1800⟩,
   ⟨1986, 1989, 3, .onOrAfter .sun 15, 7200, .wall, 0⟩,
   ⟨1986, 1986, 10, .on 19, 7200, .wall, 1800⟩,
   ⟨1987, 1999, 10, .last .sun, 7200, .wall, 1800⟩,
   ⟨1990, 1995, 3, .onOrAfter .sun 1, 7200, .wall, 0⟩,
   ⟨1996, 2005, 3, .last .sun, 7200, .wall, 0⟩,
   ⟨2000, 2000, 8, .last .sun, 7200, .wall, 1800⟩,
   ⟨2001, 2007, 10, .last .sun, 7200, .wall, 1800⟩,
   ⟨2006, 2006, 4, .onOrAfter .sun 1, 7200, .wall, 0⟩,
   ⟨2007, 2007, 3, .last .sun, 7200, .wall, 0⟩,
   ⟨2008, lastYear, 4, .onOrAfter .sun 1, 7200, .wall, 0⟩,
   ⟨2008, lastYear, 10, .onOrAfter .sun 1, 7200, .wall, 1800⟩]

/-- The rules of Queensland. -/
def queensland : List Rule :=
  [⟨1971, 1971, 10, .last .sun, 7200, .standard, 3600⟩,
   ⟨1972, 1972, 2, .last .sun, 7200, .standard, 0⟩,
   ⟨1989, 1991, 10, .last .sun, 7200, .standard, 3600⟩,
   ⟨1990, 1992, 3, .onOrAfter .sun 1, 7200, .standard, 0⟩]

/-- The rules of South Australia. -/
def southAustralia : List Rule :=
  [⟨1971, 1985, 10, .last .sun, 7200, .standard, 3600⟩,
   ⟨1986, 1986, 10, .on 19, 7200, .standard, 3600⟩,
   ⟨1987, 2007, 10, .last .sun, 7200, .standard, 3600⟩,
   ⟨1972, 1972, 2, .on 27, 7200, .standard, 0⟩,
   ⟨1973, 1985, 3, .onOrAfter .sun 1, 7200, .standard, 0⟩,
   ⟨1986, 1990, 3, .onOrAfter .sun 15, 7200, .standard, 0⟩,
   ⟨1991, 1991, 3, .on 3, 7200, .standard, 0⟩,
   ⟨1992, 1992, 3, .on 22, 7200, .standard, 0⟩,
   ⟨1993, 1993, 3, .on 7, 7200, .standard, 0⟩,
   ⟨1994, 1994, 3, .on 20, 7200, .standard, 0⟩,
   ⟨1995, 2005, 3, .last .sun, 7200, .standard, 0⟩,
   ⟨2006, 2006, 4, .on 2, 7200, .standard, 0⟩,
   ⟨2007, 2007, 3, .last .sun, 7200, .standard, 0⟩,
   ⟨2008, lastYear, 4, .onOrAfter .sun 1, 7200, .standard, 0⟩,
   ⟨2008, lastYear, 10, .onOrAfter .sun 1, 7200, .standard, 3600⟩]

/-- The rules of Tasmania. -/
def tasmania : List Rule :=
  [⟨1916, 1916, 10, .onOrAfter .sun 1, 7200, .standard, 3600⟩,
   ⟨1917, 1917, 3, .last .sun, 7200, .standard, 0⟩,
   ⟨1917, 1918, 10, .onOrAfter .sun 22, 7200, .standard, 3600⟩,
   ⟨1918, 1919, 3, .onOrAfter .sun 1, 7200, .standard, 0⟩,
   ⟨1967, 1967, 10, .onOrAfter .sun 1, 7200, .standard, 3600⟩,
   ⟨1968, 1968, 3, .onOrAfter .sun 29, 7200, .standard, 0⟩,
   ⟨1968, 1985, 10, .last .sun, 7200, .standard, 3600⟩,
   ⟨1969, 1971, 3, .onOrAfter .sun 8, 7200, .standard, 0⟩,
   ⟨1972, 1972, 2, .last .sun, 7200, .standard, 0⟩,
   ⟨1973, 1981, 3, .onOrAfter .sun 1, 7200, .standard, 0⟩,
   ⟨1982, 1983, 3, .last .sun, 7200, .standard, 0⟩,
   ⟨1984, 1986, 3, .onOrAfter .sun 1, 7200, .standard, 0⟩,
   ⟨1986, 1986, 10, .onOrAfter .sun 15, 7200, .standard, 3600⟩,
   ⟨1987, 1990, 3, .onOrAfter .sun 15, 7200, .standard, 0⟩,
   ⟨1987, 1987, 10, .onOrAfter .sun 22, 7200, .standard, 3600⟩,
   ⟨1988, 1990, 10, .last .sun, 7200, .standard, 3600⟩,
   ⟨1991, 1999, 10, .onOrAfter .sun 1, 7200, .standard, 3600⟩,
   ⟨1991, 2005, 3, .last .sun, 7200, .standard, 0⟩,
   ⟨2000, 2000, 8, .last .sun, 7200, .standard, 3600⟩,
   ⟨2001, lastYear, 10, .onOrAfter .sun 1, 7200, .standard, 3600⟩,
   ⟨2006, 2006, 4, .onOrAfter .sun 1, 7200, .standard, 0⟩,
   ⟨2007, 2007, 3, .last .sun, 7200, .standard, 0⟩,
   ⟨2008, lastYear, 4, .onOrAfter .sun 1, 7200, .standard, 0⟩]

/-- The rules of Troll. -/
def troll : List Rule :=
  [⟨2005, lastYear, 3, .last .sun, 3600, .universal, 7200⟩,
   ⟨2004, lastYear, 10, .last .sun, 3600, .universal, 0⟩]

/-- The rules of Victoria. -/
def victoria : List Rule :=
  [⟨1971, 1985, 10, .last .sun, 7200, .standard, 3600⟩,
   ⟨1972, 1972, 2, .last .sun, 7200, .standard, 0⟩,
   ⟨1973, 1985, 3, .onOrAfter .sun 1, 7200, .standard, 0⟩,
   ⟨1986, 1990, 3, .onOrAfter .sun 15, 7200, .standard, 0⟩,
   ⟨1986, 1987, 10, .onOrAfter .sun 15, 7200, .standard, 3600⟩,
   ⟨1988, 1999, 10, .last .sun, 7200, .standard, 3600⟩,
   ⟨1991, 1994, 3, .onOrAfter .sun 1, 7200, .standard, 0⟩,
   ⟨1995, 2005, 3, .last .sun, 7200, .standard, 0⟩,
   ⟨2000, 2000, 8, .last .sun, 7200, .standard, 3600⟩,
   ⟨2001, 2007, 10, .last .sun, 7200, .standard, 3600⟩,
   ⟨2006, 2006, 4, .onOrAfter .sun 1, 7200, .standard, 0⟩,
   ⟨2007, 2007, 3, .last .sun, 7200, .standard, 0⟩,
   ⟨2008, lastYear, 4, .onOrAfter .sun 1, 7200, .standard, 0⟩,
   ⟨2008, lastYear, 10, .onOrAfter .sun 1, 7200, .standard, 3600⟩]

/-- The rules of Western Australia. -/
def westernAustralia : List Rule :=
  [⟨1974, 1974, 10, .last .sun, 7200, .standard, 3600⟩,
   ⟨1975, 1975, 3, .onOrAfter .sun 1, 7200, .standard, 0⟩,
   ⟨1983, 1983, 10, .last .sun, 7200, .standard, 3600⟩,
   ⟨1984, 1984, 3, .onOrAfter .sun 1, 7200, .standard, 0⟩,
   ⟨1991, 1991, 11, .on 17, 7200, .standard, 3600⟩,
   ⟨1992, 1992, 3, .onOrAfter .sun 1, 7200, .standard, 0⟩,
   ⟨2006, 2006, 12, .on 3, 7200, .standard, 3600⟩,
   ⟨2007, 2009, 3, .last .sun, 7200, .standard, 0⟩,
   ⟨2007, 2008, 10, .last .sun, 7200, .standard, 3600⟩]

/-! ### Histories -/

/-- The history of Antarctica/Casey. -/
def antarcticaCasey : List Era :=
  [⟨0, .fixed 0, some ⟨1969, 1, .on 1, 0, .wall⟩⟩,
   ⟨28800, .fixed 0, some ⟨2009, 10, .on 18, 7200, .wall⟩⟩,
   ⟨39600, .fixed 0, some ⟨2010, 3, .on 5, 7200, .wall⟩⟩,
   ⟨28800, .fixed 0, some ⟨2011, 10, .on 28, 7200, .wall⟩⟩,
   ⟨39600, .fixed 0, some ⟨2012, 2, .on 21, 61200, .universal⟩⟩,
   ⟨28800, .fixed 0, some ⟨2016, 10, .on 22, 0, .wall⟩⟩,
   ⟨39600, .fixed 0, some ⟨2018, 3, .on 11, 14400, .wall⟩⟩,
   ⟨28800, .fixed 0, some ⟨2018, 10, .on 7, 14400, .wall⟩⟩,
   ⟨39600, .fixed 0, some ⟨2019, 3, .on 17, 10800, .wall⟩⟩,
   ⟨28800, .fixed 0, some ⟨2019, 10, .on 4, 10800, .wall⟩⟩,
   ⟨39600, .fixed 0, some ⟨2020, 3, .on 8, 10800, .wall⟩⟩,
   ⟨28800, .fixed 0, some ⟨2020, 10, .on 4, 60, .wall⟩⟩,
   ⟨39600, .fixed 0, some ⟨2021, 3, .on 14, 0, .wall⟩⟩,
   ⟨28800, .fixed 0, some ⟨2021, 10, .on 3, 60, .wall⟩⟩,
   ⟨39600, .fixed 0, some ⟨2022, 3, .on 13, 0, .wall⟩⟩,
   ⟨28800, .fixed 0, some ⟨2022, 10, .on 2, 60, .wall⟩⟩,
   ⟨39600, .fixed 0, some ⟨2023, 3, .on 9, 10800, .wall⟩⟩,
   ⟨28800, .fixed 0, none⟩]

/-- The history of Antarctica/Davis. -/
def antarcticaDavis : List Era :=
  [⟨0, .fixed 0, some ⟨1957, 1, .on 13, 0, .wall⟩⟩,
   ⟨25200, .fixed 0, some ⟨1964, 11, .on 1, 0, .wall⟩⟩,
   ⟨0, .fixed 0, some ⟨1969, 2, .on 1, 0, .wall⟩⟩,
   ⟨25200, .fixed 0, some ⟨2009, 10, .on 18, 7200, .wall⟩⟩,
   ⟨18000, .fixed 0, some ⟨2010, 3, .on 10, 72000, .universal⟩⟩,
   ⟨25200, .fixed 0, some ⟨2011, 10, .on 28, 7200, .wall⟩⟩,
   ⟨18000, .fixed 0, some ⟨2012, 2, .on 21, 72000, .universal⟩⟩,
   ⟨25200, .fixed 0, none⟩]

/-- The history of Antarctica/Macquarie. -/
def antarcticaMacquarie : List Era :=
  [⟨0, .fixed 0, some ⟨1899, 11, .on 1, 0, .wall⟩⟩,
   ⟨36000, .fixed 0, some ⟨1916, 10, .on 1, 7200, .wall⟩⟩,
   ⟨36000, .fixed 3600, some ⟨1917, 2, .on 1, 0, .wall⟩⟩,
   ⟨36000, .recurring australia, some ⟨1919, 4, .on 1, 0, .standard⟩⟩,
   ⟨0, .fixed 0, some ⟨1948, 3, .on 25, 0, .wall⟩⟩,
   ⟨36000, .recurring australia, some ⟨1967, 1, .on 1, 0, .wall⟩⟩,
   ⟨36000, .recurring tasmania, some ⟨2010, 1, .on 1, 0, .wall⟩⟩,
   ⟨36000, .fixed 3600, some ⟨2011, 1, .on 1, 0, .wall⟩⟩,
   ⟨36000, .recurring tasmania, none⟩]

/-- The history of Antarctica/Mawson. -/
def antarcticaMawson : List Era :=
  [⟨0, .fixed 0, some ⟨1954, 2, .on 13, 0, .wall⟩⟩,
   ⟨21600, .fixed 0, some ⟨2009, 10, .on 18, 7200, .wall⟩⟩,
   ⟨18000, .fixed 0, none⟩]

/-- The history of Antarctica/Palmer. -/
def antarcticaPalmer : List Era :=
  [⟨0, .fixed 0, some ⟨1965, 1, .on 1, 0, .wall⟩⟩,
   ⟨-14400, .recurring argentina, some ⟨1969, 10, .on 5, 0, .wall⟩⟩,
   ⟨-10800, .recurring argentina, some ⟨1982, 5, .on 1, 0, .wall⟩⟩,
   ⟨-14400, .recurring chile, some ⟨2016, 12, .on 4, 0, .wall⟩⟩,
   ⟨-10800, .fixed 0, none⟩]

/-- The history of Antarctica/Rothera. -/
def antarcticaRothera : List Era :=
  [⟨0, .fixed 0, some ⟨1976, 12, .on 1, 0, .wall⟩⟩,
   ⟨-10800, .fixed 0, none⟩]

/-- The history of Antarctica/Troll. -/
def antarcticaTroll : List Era :=
  [⟨0, .fixed 0, some ⟨2005, 2, .on 12, 0, .wall⟩⟩,
   ⟨0, .recurring troll, none⟩]

/-- The history of Antarctica/Vostok. -/
def antarcticaVostok : List Era :=
  [⟨0, .fixed 0, some ⟨1957, 12, .on 16, 0, .wall⟩⟩,
   ⟨25200, .fixed 0, some ⟨1994, 2, .on 1, 0, .wall⟩⟩,
   ⟨0, .fixed 0, some ⟨1994, 11, .on 1, 0, .wall⟩⟩,
   ⟨25200, .fixed 0, some ⟨2023, 12, .on 18, 7200, .wall⟩⟩,
   ⟨18000, .fixed 0, none⟩]

/-- The history of Australia/Adelaide. -/
def australiaAdelaide : List Era :=
  [⟨33260, .fixed 0, some ⟨1895, 2, .on 1, 0, .wall⟩⟩,
   ⟨32400, .fixed 0, some ⟨1899, 5, .on 1, 0, .wall⟩⟩,
   ⟨34200, .recurring australia, some ⟨1971, 1, .on 1, 0, .wall⟩⟩,
   ⟨34200, .recurring southAustralia, none⟩]

/-- The history of Australia/Brisbane. -/
def australiaBrisbane : List Era :=
  [⟨36728, .fixed 0, some ⟨1895, 1, .on 1, 0, .wall⟩⟩,
   ⟨36000, .recurring australia, some ⟨1971, 1, .on 1, 0, .wall⟩⟩,
   ⟨36000, .recurring queensland, none⟩]

/-- The history of Australia/Broken_Hill. -/
def australiaBrokenHill : List Era :=
  [⟨33948, .fixed 0, some ⟨1895, 2, .on 1, 0, .wall⟩⟩,
   ⟨36000, .fixed 0, some ⟨1896, 8, .on 23, 0, .wall⟩⟩,
   ⟨32400, .fixed 0, some ⟨1899, 5, .on 1, 0, .wall⟩⟩,
   ⟨34200, .recurring australia, some ⟨1971, 1, .on 1, 0, .wall⟩⟩,
   ⟨34200, .recurring newSouthWales, some ⟨2000, 1, .on 1, 0, .wall⟩⟩,
   ⟨34200, .recurring southAustralia, none⟩]

/-- The history of Australia/Darwin. -/
def australiaDarwin : List Era :=
  [⟨31400, .fixed 0, some ⟨1895, 2, .on 1, 0, .wall⟩⟩,
   ⟨32400, .fixed 0, some ⟨1899, 5, .on 1, 0, .wall⟩⟩,
   ⟨34200, .recurring australia, none⟩]

/-- The history of Australia/Eucla. -/
def australiaEucla : List Era :=
  [⟨30928, .fixed 0, some ⟨1895, 12, .on 1, 0, .wall⟩⟩,
   ⟨31500, .recurring australia, some ⟨1943, 7, .on 1, 0, .wall⟩⟩,
   ⟨31500, .recurring westernAustralia, none⟩]

/-- The history of Australia/Hobart. -/
def australiaHobart : List Era :=
  [⟨35356, .fixed 0, some ⟨1895, 9, .on 1, 0, .wall⟩⟩,
   ⟨36000, .recurring tasmania, some ⟨1919, 10, .on 24, 0, .wall⟩⟩,
   ⟨36000, .recurring australia, some ⟨1967, 1, .on 1, 0, .wall⟩⟩,
   ⟨36000, .recurring tasmania, none⟩]

/-- The history of Australia/Lindeman. -/
def australiaLindeman : List Era :=
  [⟨35756, .fixed 0, some ⟨1895, 1, .on 1, 0, .wall⟩⟩,
   ⟨36000, .recurring australia, some ⟨1971, 1, .on 1, 0, .wall⟩⟩,
   ⟨36000, .recurring queensland, some ⟨1992, 7, .on 1, 0, .wall⟩⟩,
   ⟨36000, .recurring holiday, none⟩]

/-- The history of Australia/Lord_Howe. -/
def australiaLordHowe : List Era :=
  [⟨38180, .fixed 0, some ⟨1895, 2, .on 1, 0, .wall⟩⟩,
   ⟨36000, .fixed 0, some ⟨1981, 3, .on 1, 0, .wall⟩⟩,
   ⟨37800, .recurring lordHowe, some ⟨1985, 7, .on 1, 0, .wall⟩⟩,
   ⟨37800, .recurring lordHowe, none⟩]

/-- The history of Australia/Melbourne. -/
def australiaMelbourne : List Era :=
  [⟨34792, .fixed 0, some ⟨1895, 2, .on 1, 0, .wall⟩⟩,
   ⟨36000, .recurring australia, some ⟨1971, 1, .on 1, 0, .wall⟩⟩,
   ⟨36000, .recurring victoria, none⟩]

/-- The history of Australia/Perth. -/
def australiaPerth : List Era :=
  [⟨27804, .fixed 0, some ⟨1895, 12, .on 1, 0, .wall⟩⟩,
   ⟨28800, .recurring australia, some ⟨1943, 7, .on 1, 0, .wall⟩⟩,
   ⟨28800, .recurring westernAustralia, none⟩]

/-- The history of Australia/Sydney. -/
def australiaSydney : List Era :=
  [⟨36292, .fixed 0, some ⟨1895, 2, .on 1, 0, .wall⟩⟩,
   ⟨36000, .recurring australia, some ⟨1971, 1, .on 1, 0, .wall⟩⟩,
   ⟨36000, .recurring newSouthWales, none⟩]

/-- The zones of Australia and Antarctica by name. -/
def southernZones : List (String × List Era) :=
  [("Antarctica/Casey", antarcticaCasey),
   ("Antarctica/Davis", antarcticaDavis),
   ("Antarctica/Macquarie", antarcticaMacquarie),
   ("Antarctica/Mawson", antarcticaMawson),
   ("Antarctica/Palmer", antarcticaPalmer),
   ("Antarctica/Rothera", antarcticaRothera),
   ("Antarctica/Troll", antarcticaTroll),
   ("Antarctica/Vostok", antarcticaVostok),
   ("Australia/Adelaide", australiaAdelaide),
   ("Australia/Brisbane", australiaBrisbane),
   ("Australia/Broken_Hill", australiaBrokenHill),
   ("Australia/Darwin", australiaDarwin),
   ("Australia/Eucla", australiaEucla),
   ("Australia/Hobart", australiaHobart),
   ("Australia/Lindeman", australiaLindeman),
   ("Australia/Lord_Howe", australiaLordHowe),
   ("Australia/Melbourne", australiaMelbourne),
   ("Australia/Perth", australiaPerth),
   ("Australia/Sydney", australiaSydney)]

end Daybook.Zone.Tables
