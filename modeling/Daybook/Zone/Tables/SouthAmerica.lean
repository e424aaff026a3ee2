import Daybook.Zone.Tables.Shared

/-!
# The clocks of South America

The recurring rules and the histories of the zones of this area, and the list of its zones by name.
-/

namespace Daybook.Zone.Tables

/-! ### Rules -/

/-- The rules of Brazil. -/
def brazil : List Rule :=
  [⟨1931, 1931, 10, .on 3, 39600, .wall, 3600⟩,
   ⟨1932, 1933, 4, .on 1, 0, .wall, 0⟩,
   ⟨1932, 1932, 10, .on 3, 0, .wall, 3600⟩,
   ⟨1949, 1952, 12, .on 1, 0, .wall, 3600⟩,
   ⟨1950, 1950, 4, .on 16, 3600, .wall, 0⟩,
   ⟨1951, 1952, 4, .on 1, 0, .wall, 0⟩,
   ⟨1953, 1953, 3, .on 1, 0, .wall, 0⟩,
   ⟨1963, 1963, 12, .on 9, 0, .wall, 3600⟩,
   ⟨1964, 1964, 3, .on 1, 0, .wall, 0⟩,
   ⟨1965, 1965, 1, .on 31, 0, .wall, 3600⟩,
   ⟨1965, 1965, 3, .on 31, 0, .wall, 0⟩,
   ⟨1965, 1965, 12, .on 1, 0, .wall, 3600⟩,
   ⟨1966, 1968, 3, .on 1, 0, .wall, 0⟩,
   ⟨1966, 1967, 11, .on 1, 0, .wall, 3600⟩,
   ⟨1985, 1985, 11, .on 2, 0, .wall, 3600⟩,
   ⟨1986, 1986, 3, .on 15, 0, .wall, 0⟩,
   ⟨1986, 1986, 10, .on 25, 0, .wall, 3600⟩,
   ⟨1987, 1987, 2, .on 14, 0, .wall, 0⟩,
   ⟨1987, 1987, 10, .on 25, 0, .wall, 3600⟩,
   ⟨1988, 1988, 2, .on 7, 0, .wall, 0⟩,
   ⟨1988, 1988, 10, .on 16, 0, .wall, 3600⟩,
   ⟨1989, 1989, 1, .on 29, 0, .wall, 0⟩,
   ⟨1989, 1989, 10, .on 15, 0, .wall, 3600⟩,
   ⟨1990, 1990, 2, .on 11, 0, .wall, 0⟩,
   ⟨1990, 1990, 10, .on 21, 0, .wall, 3600⟩,
   ⟨1991, 1991, 2, .on 17, 0, .wall, 0⟩,
   ⟨1991, 1991, 10, .on 20, 0, .wall, 3600⟩,
   ⟨1992, 1992, 2, .on 9, 0, .wall, 0⟩,
   ⟨1992, 1992, 10, .on 25, 0, .wall, 3600⟩,
   ⟨1993, 1993, 1, .on 31, 0, .wall, 0⟩,
   ⟨1993, 1995, 10, .onOrAfter .sun 11, 0, .wall, 3600⟩,
   ⟨1994, 1995, 2, .onOrAfter .sun 15, 0, .wall, 0⟩,
   ⟨1996, 1996, 2, .on 11, 0, .wall, 0⟩,
   ⟨1996, 1996, 10, .on 6, 0, .wall, 3600⟩,
   ⟨1997, 1997, 2, .on 16, 0, .wall, 0⟩,
   ⟨1997, 1997, 10, .on 6, 0, .wall, 3600⟩,
   ⟨1998, 1998, 3, .on 1, 0, .wall, 0⟩,
   ⟨1998, 1998, 10, .on 11, 0, .wall, 3600⟩,
   ⟨1999, 1999, 2, .on 21, 0, .wall, 0⟩,
   ⟨1999, 1999, 10, .on 3, 0, .wall, 3600⟩,
   ⟨2000, 2000, 2, .on 27, 0, .wall, 0⟩,
   ⟨2000, 2001, 10, .onOrAfter .sun 8, 0, .wall, 3600⟩,
   ⟨2001, 2006, 2, .onOrAfter .sun 15, 0, .wall, 0⟩,
   ⟨2002, 2002, 11, .on 3, 0, .wall, 3600⟩,
   ⟨2003, 2003, 10, .on 19, 0, .wall, 3600⟩,
   ⟨2004, 2004, 11, .on 2, 0, .wall, 3600⟩,
   ⟨2005, 2005, 10, .on 16, 0, .wall, 3600⟩,
   ⟨2006, 2006, 11, .on 5, 0, .wall, 3600⟩,
   ⟨2007, 2007, 2, .on 25, 0, .wall, 0⟩,
   ⟨2007, 2007, 10, .onOrAfter .sun 8, 0, .wall, 3600⟩,
   ⟨2008, 2017, 10, .onOrAfter .sun 15, 0, .wall, 3600⟩,
   ⟨2008, 2011, 2, .onOrAfter .sun 15, 0, .wall, 0⟩,
   ⟨2012, 2012, 2, .onOrAfter .sun 22, 0, .wall, 0⟩,
   ⟨2013, 2014, 2, .onOrAfter .sun 15, 0, .wall, 0⟩,
   ⟨2015, 2015, 2, .onOrAfter .sun 22, 0, .wall, 0⟩,
   ⟨2016, 2019, 2, .onOrAfter .sun 15, 0, .wall, 0⟩,
   ⟨2018, 2018, 11, .onOrAfter .sun 1, 0, .wall, 3600⟩]

/-- The rules of Colombia. -/
def colombia : List Rule :=
  [⟨1992, 1992, 5, .on 3, 0, .wall, 3600⟩,
   ⟨1993, 1993, 2, .on 6, 86400, .wall, 0⟩]

/-- The rules of Paraguay. -/
def paraguay : List Rule :=
  [⟨1975, 1988, 10, .on 1, 0, .wall, 3600⟩,
   ⟨1975, 1978, 3, .on 1, 0, .wall, 0⟩,
   ⟨1979, 1991, 4, .on 1, 0, .wall, 0⟩,
   ⟨1989, 1989, 10, .on 22, 0, .wall, 3600⟩,
   ⟨1990, 1990, 10, .on 1, 0, .wall, 3600⟩,
   ⟨1991, 1991, 10, .on 6, 0, .wall, 3600⟩,
   ⟨1992, 1992, 3, .on 1, 0, .wall, 0⟩,
   ⟨1992, 1992, 10, .on 5, 0, .wall, 3600⟩,
   ⟨1993, 1993, 3, .on 31, 0, .wall, 0⟩,
   ⟨1993, 1995, 10, .on 1, 0, .wall, 3600⟩,
   ⟨1994, 1995, 2, .last .sun, 0, .wall, 0⟩,
   ⟨1996, 1996, 3, .on 1, 0, .wall, 0⟩,
   ⟨1996, 2001, 10, .onOrAfter .sun 1, 0, .wall, 3600⟩,
   ⟨1997, 1997, 2, .last .sun, 0, .wall, 0⟩,
   ⟨1998, 2001, 3, .onOrAfter .sun 1, 0, .wall, 0⟩,
   ⟨2002, 2004, 4, .onOrAfter .sun 1, 0, .wall, 0⟩,
   ⟨2002, 2003, 9, .onOrAfter .sun 1, 0, .wall, 3600⟩,
   ⟨2004, 2009, 10, .onOrAfter .sun 15, 0, .wall, 3600⟩,
   ⟨2005, 2009, 3, .onOrAfter .sun 8, 0, .wall, 0⟩,
   ⟨2010, 2024, 10, .onOrAfter .sun 1, 0, .wall, 3600⟩,
   ⟨2010, 2012, 4, .onOrAfter .sun 8, 0, .wall, 0⟩,
   ⟨2013, 2024, 3, .onOrAfter .sun 22, 0, .wall, 0⟩]

/-- The rules of Peru. -/
def peru : List Rule :=
  [⟨1938, 1938, 1, .on 1, 0, .wall, 3600⟩,
   ⟨1938, 1938, 4, .on 1, 0, .wall, 0⟩,
   ⟨1938, 1939, 9, .last .sun, 0, .wall, 3600⟩,
   ⟨1939, 1940, 3, .onOrAfter .sun 24, 0, .wall, 0⟩,
   ⟨1986, 1987, 1, .on 1, 0, .wall, 3600⟩,
   ⟨1986, 1987, 4, .on 1, 0, .wall, 0⟩,
   ⟨1990, 1990, 1, .on 1, 0, .wall, 3600⟩,
   ⟨1990, 1990, 4, .on 1, 0, .wall, 0⟩,
   ⟨1994, 1994, 1, .on 1, 0, .wall, 3600⟩,
   ⟨1994, 1994, 4, .on 1, 0, .wall, 0⟩]

/-- The rules of San Luis. -/
def sanLuis : List Rule :=
  [⟨2008, 2009, 3, .onOrAfter .sun 8, 0, .wall, 0⟩,
   ⟨2007, 2008, 10, .onOrAfter .sun 8, 0, .wall, 3600⟩]

/-- The rules of Uruguay. -/
def uruguay : List Rule :=
  [⟨1923, 1925, 10, .on 1, 0, .wall, 1800⟩,
   ⟨1924, 1926, 4, .on 1, 0, .wall, 0⟩,
   ⟨1933, 1938, 10, .last .sun, 0, .wall, 1800⟩,
   ⟨1934, 1941, 3, .last .sat, 86400, .wall, 0⟩,
   ⟨1939, 1939, 10, .on 1, 0, .wall, 1800⟩,
   ⟨1940, 1940, 10, .on 27, 0, .wall, 1800⟩,
   ⟨1941, 1941, 8, .on 1, 0, .wall, 1800⟩,
   ⟨1942, 1942, 12, .on 14, 0, .wall, 1800⟩,
   ⟨1943, 1943, 3, .on 14, 0, .wall, 0⟩,
   ⟨1959, 1959, 5, .on 24, 0, .wall, 1800⟩,
   ⟨1959, 1959, 11, .on 15, 0, .wall, 0⟩,
   ⟨1960, 1960, 1, .on 17, 0, .wall, 3600⟩,
   ⟨1960, 1960, 3, .on 6, 0, .wall, 0⟩,
   ⟨1965, 1965, 4, .on 4, 0, .wall, 3600⟩,
   ⟨1965, 1965, 9, .on 26, 0, .wall, 0⟩,
   ⟨1968, 1968, 5, .on 27, 0, .wall, 1800⟩,
   ⟨1968, 1968, 12, .on 1, 0, .wall, 0⟩,
   ⟨1970, 1970, 4, .on 25, 0, .wall, 3600⟩,
   ⟨1970, 1970, 6, .on 14, 0, .wall, 0⟩,
   ⟨1972, 1972, 4, .on 23, 0, .wall, 3600⟩,
   ⟨1972, 1972, 7, .on 16, 0, .wall, 0⟩,
   ⟨1974, 1974, 1, .on 13, 0, .wall, 5400⟩,
   ⟨1974, 1974, 3, .on 10, 0, .wall, 1800⟩,
   ⟨1974, 1974, 9, .on 1, 0, .wall, 0⟩,
   ⟨1974, 1974, 12, .on 22, 0, .wall, 3600⟩,
   ⟨1975, 1975, 3, .on 30, 0, .wall, 0⟩,
   ⟨1976, 1976, 12, .on 19, 0, .wall, 3600⟩,
   ⟨1977, 1977, 3, .on 6, 0, .wall, 0⟩,
   ⟨1977, 1977, 12, .on 4, 0, .wall, 3600⟩,
   ⟨1978, 1979, 3, .onOrAfter .sun 1, 0, .wall, 0⟩,
   ⟨1978, 1978, 12, .on 17, 0, .wall, 3600⟩,
   ⟨1979, 1979, 4, .on 29, 0, .wall, 3600⟩,
   ⟨1980, 1980, 3, .on 16, 0, .wall, 0⟩,
   ⟨1987, 1987, 12, .on 14, 0, .wall, 3600⟩,
   ⟨1988, 1988, 2, .on 28, 0, .wall, 0⟩,
   ⟨1988, 1988, 12, .on 11, 0, .wall, 3600⟩,
   ⟨1989, 1989, 3, .on 5, 0, .wall, 0⟩,
   ⟨1989, 1989, 10, .on 29, 0, .wall, 3600⟩,
   ⟨1990, 1990, 2, .on 25, 0, .wall, 0⟩,
   ⟨1990, 1991, 10, .onOrAfter .sun 21, 0, .wall, 3600⟩,
   ⟨1991, 1992, 3, .onOrAfter .sun 1, 0, .wall, 0⟩,
   ⟨1992, 1992, 10, .on 18, 0, .wall, 3600⟩,
   ⟨1993, 1993, 2, .on 28, 0, .wall, 0⟩,
   ⟨2004, 2004, 9, .on 19, 0, .wall, 3600⟩,
   ⟨2005, 2005, 3, .on 27, 7200, .wall, 0⟩,
   ⟨2005, 2005, 10, .on 9, 7200, .wall, 3600⟩,
   ⟨2006, 2015, 3, .onOrAfter .sun 8, 7200, .wall, 0⟩,
   ⟨2006, 2014, 10, .onOrAfter .sun 1, 7200, .wall, 3600⟩]

/-! ### Histories -/

/-- The history of America/Araguaina. -/
def americaAraguaina : List Era :=
  [⟨-11568, .fixed 0, some ⟨1914, 1, .on 1, 0, .wall⟩⟩,
   ⟨-10800, .recurring brazil, some ⟨1990, 9, .on 17, 0, .wall⟩⟩,
   ⟨-10800, .fixed 0, some ⟨1995, 9, .on 14, 0, .wall⟩⟩,
   ⟨-10800, .recurring brazil, some ⟨2003, 9, .on 24, 0, .wall⟩⟩,
   ⟨-10800, .fixed 0, some ⟨2012, 10, .on 21, 0, .wall⟩⟩,
   ⟨-10800, .recurring brazil, some ⟨2013, 9, .on 1, 0, .wall⟩⟩,
   ⟨-10800, .fixed 0, none⟩]

/-- The history of America/Argentina/Buenos_Aires. -/
def americaArgentinaBuenosAires : List Era :=
  [⟨-14028, .fixed 0, some ⟨1894, 10, .on 31, 0, .wall⟩⟩,
   ⟨-15408, .fixed 0, some ⟨1920, 5, .on 1, 0, .wall⟩⟩,
   ⟨-14400, .fixed 0, some ⟨1930, 12, .on 1, 0, .wall⟩⟩,
   ⟨-14400, .recurring argentina, some ⟨1969, 10, .on 5, 0, .wall⟩⟩,
   ⟨-10800, .recurring argentina, some ⟨1999, 10, .on 3, 0, .wall⟩⟩,
   ⟨-14400, .recurring argentina, some ⟨2000, 3, .on 3, 0, .wall⟩⟩,
   ⟨-10800, .recurring argentina, none⟩]

/-- The history of America/Argentina/Catamarca. -/
def americaArgentinaCatamarca : List Era :=
  [⟨-15788, .fixed 0, some ⟨1894, 10, .on 31, 0, .wall⟩⟩,
   ⟨-15408, .fixed 0, some ⟨1920, 5, .on 1, 0, .wall⟩⟩,
   ⟨-14400, .fixed 0, some ⟨1930, 12, .on 1, 0, .wall⟩⟩,
   ⟨-14400, .recurring argentina, some ⟨1969, 10, .on 5, 0, .wall⟩⟩,
   ⟨-10800, .recurring argentina, some ⟨1991, 3, .on 3, 0, .wall⟩⟩,
   ⟨-14400, .fixed 0, some ⟨1991, 10, .on 20, 0, .wall⟩⟩,
   ⟨-10800, .recurring argentina, some ⟨1999, 10, .on 3, 0, .wall⟩⟩,
   ⟨-14400, .recurring argentina, some ⟨2000, 3, .on 3, 0, .wall⟩⟩,
   ⟨-10800, .fixed 0, some ⟨2004, 6, .on 1, 0, .wall⟩⟩,
   ⟨-14400, .fixed 0, some ⟨2004, 6, .on 20, 0, .wall⟩⟩,
   ⟨-10800, .recurring argentina, some ⟨2008, 10, .on 18, 0, .wall⟩⟩,
   ⟨-10800, .fixed 0, none⟩]

/-- The history of America/Argentina/Cordoba. -/
def americaArgentinaCordoba : List Era :=
  [⟨-15408, .fixed 0, some ⟨1894, 10, .on 31, 0, .wall⟩⟩,
   ⟨-15408, .fixed 0, some ⟨1920, 5, .on 1, 0, .wall⟩⟩,
   ⟨-14400, .fixed 0, some ⟨1930, 12, .on 1, 0, .wall⟩⟩,
   ⟨-14400, .recurring argentina, some ⟨1969, 10, .on 5, 0, .wall⟩⟩,
   ⟨-10800, .recurring argentina, some ⟨1991, 3, .on 3, 0, .wall⟩⟩,
   ⟨-14400, .fixed 0, some ⟨1991, 10, .on 20, 0, .wall⟩⟩,
   ⟨-10800, .recurring argentina, some ⟨1999, 10, .on 3, 0, .wall⟩⟩,
   ⟨-14400, .recurring argentina, some ⟨2000, 3, .on 3, 0, .wall⟩⟩,
   ⟨-10800, .recurring argentina, none⟩]

/-- The history of America/Argentina/Jujuy. -/
def americaArgentinaJujuy : List Era :=
  [⟨-15672, .fixed 0, some ⟨1894, 10, .on 31, 0, .wall⟩⟩,
   ⟨-15408, .fixed 0, some ⟨1920, 5, .on 1, 0, .wall⟩⟩,
   ⟨-14400, .fixed 0, some ⟨1930, 12, .on 1, 0, .wall⟩⟩,
   ⟨-14400, .recurring argentina, some ⟨1969, 10, .on 5, 0, .wall⟩⟩,
   ⟨-10800, .recurring argentina, some ⟨1990, 3, .on 4, 0, .wall⟩⟩,
   ⟨-14400, .fixed 0, some ⟨1990, 10, .on 28, 0, .wall⟩⟩,
   ⟨-14400, .fixed 3600, some ⟨1991, 3, .on 17, 0, .wall⟩⟩,
   ⟨-14400, .fixed 0, some ⟨1991, 10, .on 6, 0, .wall⟩⟩,
   ⟨-10800, .fixed 3600, some ⟨1992, 1, .on 1, 0, .wall⟩⟩,
   ⟨-10800, .recurring argentina, some ⟨1999, 10, .on 3, 0, .wall⟩⟩,
   ⟨-14400, .recurring argentina, some ⟨2000, 3, .on 3, 0, .wall⟩⟩,
   ⟨-10800, .recurring argentina, some ⟨2008, 10, .on 18, 0, .wall⟩⟩,
   ⟨-10800, .fixed 0, none⟩]

/-- The history of America/Argentina/La_Rioja. -/
def americaArgentinaLaRioja : List Era :=
  [⟨-16044, .fixed 0, some ⟨1894, 10, .on 31, 0, .wall⟩⟩,
   ⟨-15408, .fixed 0, some ⟨1920, 5, .on 1, 0, .wall⟩⟩,
   ⟨-14400, .fixed 0, some ⟨1930, 12, .on 1, 0, .wall⟩⟩,
   ⟨-14400, .recurring argentina, some ⟨1969, 10, .on 5, 0, .wall⟩⟩,
   ⟨-10800, .recurring argentina, some ⟨1991, 3, .on 1, 0, .wall⟩⟩,
   ⟨-14400, .fixed 0, some ⟨1991, 5, .on 7, 0, .wall⟩⟩,
   ⟨-10800, .recurring argentina, some ⟨1999, 10, .on 3, 0, .wall⟩⟩,
   ⟨-14400, .recurring argentina, some ⟨2000, 3, .on 3, 0, .wall⟩⟩,
   ⟨-10800, .fixed 0, some ⟨2004, 6, .on 1, 0, .wall⟩⟩,
   ⟨-14400, .fixed 0, some ⟨2004, 6, .on 20, 0, .wall⟩⟩,
   ⟨-10800, .recurring argentina, some ⟨2008, 10, .on 18, 0, .wall⟩⟩,
   ⟨-10800, .fixed 0, none⟩]

/-- The history of America/Argentina/Mendoza. -/
def americaArgentinaMendoza : List Era :=
  [⟨-16516, .fixed 0, some ⟨1894, 10, .on 31, 0, .wall⟩⟩,
   ⟨-15408, .fixed 0, some ⟨1920, 5, .on 1, 0, .wall⟩⟩,
   ⟨-14400, .fixed 0, some ⟨1930, 12, .on 1, 0, .wall⟩⟩,
   ⟨-14400, .recurring argentina, some ⟨1969, 10, .on 5, 0, .wall⟩⟩,
   ⟨-10800, .recurring argentina, some ⟨1990, 3, .on 4, 0, .wall⟩⟩,
   ⟨-14400, .fixed 0, some ⟨1990, 10, .on 15, 0, .wall⟩⟩,
   ⟨-14400, .fixed 3600, some ⟨1991, 3, .on 1, 0, .wall⟩⟩,
   ⟨-14400, .fixed 0, some ⟨1991, 10, .on 15, 0, .wall⟩⟩,
   ⟨-14400, .fixed 3600, some ⟨1992, 3, .on 1, 0, .wall⟩⟩,
   ⟨-14400, .fixed 0, some ⟨1992, 10, .on 18, 0, .wall⟩⟩,
   ⟨-10800, .recurring argentina, some ⟨1999, 10, .on 3, 0, .wall⟩⟩,
   ⟨-14400, .recurring argentina, some ⟨2000, 3, .on 3, 0, .wall⟩⟩,
   ⟨-10800, .fixed 0, some ⟨2004, 5, .on 23, 0, .wall⟩⟩,
   ⟨-14400, .fixed 0, some ⟨2004, 9, .on 26, 0, .wall⟩⟩,
   ⟨-10800, .recurring argentina, some ⟨2008, 10, .on 18, 0, .wall⟩⟩,
   ⟨-10800, .fixed 0, none⟩]

/-- The history of America/Argentina/Rio_Gallegos. -/
def americaArgentinaRioGallegos : List Era :=
  [⟨-16612, .fixed 0, some ⟨1894, 10, .on 31, 0, .wall⟩⟩,
   ⟨-15408, .fixed 0, some ⟨1920, 5, .on 1, 0, .wall⟩⟩,
   ⟨-14400, .fixed 0, some ⟨1930, 12, .on 1, 0, .wall⟩⟩,
   ⟨-14400, .recurring argentina, some ⟨1969, 10, .on 5, 0, .wall⟩⟩,
   ⟨-10800, .recurring argentina, some ⟨1999, 10, .on 3, 0, .wall⟩⟩,
   ⟨-14400, .recurring argentina, some ⟨2000, 3, .on 3, 0, .wall⟩⟩,
   ⟨-10800, .fixed 0, some ⟨2004, 6, .on 1, 0, .wall⟩⟩,
   ⟨-14400, .fixed 0, some ⟨2004, 6, .on 20, 0, .wall⟩⟩,
   ⟨-10800, .recurring argentina, some ⟨2008, 10, .on 18, 0, .wall⟩⟩,
   ⟨-10800, .fixed 0, none⟩]

/-- The history of America/Argentina/Salta. -/
def americaArgentinaSalta : List Era :=
  [⟨-15700, .fixed 0, some ⟨1894, 10, .on 31, 0, .wall⟩⟩,
   ⟨-15408, .fixed 0, some ⟨1920, 5, .on 1, 0, .wall⟩⟩,
   ⟨-14400, .fixed 0, some ⟨1930, 12, .on 1, 0, .wall⟩⟩,
   ⟨-14400, .recurring argentina, some ⟨1969, 10, .on 5, 0, .wall⟩⟩,
   ⟨-10800, .recurring argentina, some ⟨1991, 3, .on 3, 0, .wall⟩⟩,
   ⟨-14400, .fixed 0, some ⟨1991, 10, .on 20, 0, .wall⟩⟩,
   ⟨-10800, .recurring argentina, some ⟨1999, 10, .on 3, 0, .wall⟩⟩,
   ⟨-14400, .recurring argentina, some ⟨2000, 3, .on 3, 0, .wall⟩⟩,
   ⟨-10800, .recurring argentina, some ⟨2008, 10, .on 18, 0, .wall⟩⟩,
   ⟨-10800, .fixed 0, none⟩]

/-- The history of America/Argentina/San_Juan. -/
def americaArgentinaSanJuan : List Era :=
  [⟨-16444, .fixed 0, some ⟨1894, 10, .on 31, 0, .wall⟩⟩,
   ⟨-15408, .fixed 0, some ⟨1920, 5, .on 1, 0, .wall⟩⟩,
   ⟨-14400, .fixed 0, some ⟨1930, 12, .on 1, 0, .wall⟩⟩,
   ⟨-14400, .recurring argentina, some ⟨1969, 10, .on 5, 0, .wall⟩⟩,
   ⟨-10800, .recurring argentina, some ⟨1991, 3, .on 1, 0, .wall⟩⟩,
   ⟨-14400, .fixed 0, some ⟨1991, 5, .on 7, 0, .wall⟩⟩,
   ⟨-10800, .recurring argentina, some ⟨1999, 10, .on 3, 0, .wall⟩⟩,
   ⟨-14400, .recurring argentina, some ⟨2000, 3, .on 3, 0, .wall⟩⟩,
   ⟨-10800, .fixed 0, some ⟨2004, 5, .on 31, 0, .wall⟩⟩,
   ⟨-14400, .fixed 0, some ⟨2004, 7, .on 25, 0, .wall⟩⟩,
   ⟨-10800, .recurring argentina, some ⟨2008, 10, .on 18, 0, .wall⟩⟩,
   ⟨-10800, .fixed 0, none⟩]

/-- The history of America/Argentina/San_Luis. -/
def americaArgentinaSanLuis : List Era :=
  [⟨-15924, .fixed 0, some ⟨1894, 10, .on 31, 0, .wall⟩⟩,
   ⟨-15408, .fixed 0, some ⟨1920, 5, .on 1, 0, .wall⟩⟩,
   ⟨-14400, .fixed 0, some ⟨1930, 12, .on 1, 0, .wall⟩⟩,
   ⟨-14400, .recurring argentina, some ⟨1969, 10, .on 5, 0, .wall⟩⟩,
   ⟨-10800, .recurring argentina, some ⟨1990, 1, .on 1, 0, .wall⟩⟩,
   ⟨-10800, .fixed 3600, some ⟨1990, 3, .on 14, 0, .wall⟩⟩,
   ⟨-14400, .fixed 0, some ⟨1990, 10, .on 15, 0, .wall⟩⟩,
   ⟨-14400, .fixed 3600, some ⟨1991, 3, .on 1, 0, .wall⟩⟩,
   ⟨-14400, .fixed 0, some ⟨1991, 6, .on 1, 0, .wall⟩⟩,
   ⟨-10800, .fixed 0, some ⟨1999, 10, .on 3, 0, .wall⟩⟩,
   ⟨-14400, .fixed 3600, some ⟨2000, 3, .on 3, 0, .wall⟩⟩,
   ⟨-10800, .fixed 0, some ⟨2004, 5, .on 31, 0, .wall⟩⟩,
   ⟨-14400, .fixed 0, some ⟨2004, 7, .on 25, 0, .wall⟩⟩,
   ⟨-10800, .recurring argentina, some ⟨2008, 1, .on 21, 0, .wall⟩⟩,
   ⟨-14400, .recurring sanLuis, some ⟨2009, 10, .on 11, 0, .wall⟩⟩,
   ⟨-10800, .fixed 0, none⟩]

/-- The history of America/Argentina/Tucuman. -/
def americaArgentinaTucuman : List Era :=
  [⟨-15652, .fixed 0, some ⟨1894, 10, .on 31, 0, .wall⟩⟩,
   ⟨-15408, .fixed 0, some ⟨1920, 5, .on 1, 0, .wall⟩⟩,
   ⟨-14400, .fixed 0, some ⟨1930, 12, .on 1, 0, .wall⟩⟩,
   ⟨-14400, .recurring argentina, some ⟨1969, 10, .on 5, 0, .wall⟩⟩,
   ⟨-10800, .recurring argentina, some ⟨1991, 3, .on 3, 0, .wall⟩⟩,
   ⟨-14400, .fixed 0, some ⟨1991, 10, .on 20, 0, .wall⟩⟩,
   ⟨-10800, .recurring argentina, some ⟨1999, 10, .on 3, 0, .wall⟩⟩,
   ⟨-14400, .recurring argentina, some ⟨2000, 3, .on 3, 0, .wall⟩⟩,
   ⟨-10800, .fixed 0, some ⟨2004, 6, .on 1, 0, .wall⟩⟩,
   ⟨-14400, .fixed 0, some ⟨2004, 6, .on 13, 0, .wall⟩⟩,
   ⟨-10800, .recurring argentina, none⟩]

/-- The history of America/Argentina/Ushuaia. -/
def americaArgentinaUshuaia : List Era :=
  [⟨-16392, .fixed 0, some ⟨1894, 10, .on 31, 0, .wall⟩⟩,
   ⟨-15408, .fixed 0, some ⟨1920, 5, .on 1, 0, .wall⟩⟩,
   ⟨-14400, .fixed 0, some ⟨1930, 12, .on 1, 0, .wall⟩⟩,
   ⟨-14400, .recurring argentina, some ⟨1969, 10, .on 5, 0, .wall⟩⟩,
   ⟨-10800, .recurring argentina, some ⟨1999, 10, .on 3, 0, .wall⟩⟩,
   ⟨-14400, .recurring argentina, some ⟨2000, 3, .on 3, 0, .wall⟩⟩,
   ⟨-10800, .fixed 0, some ⟨2004, 5, .on 30, 0, .wall⟩⟩,
   ⟨-14400, .fixed 0, some ⟨2004, 6, .on 20, 0, .wall⟩⟩,
   ⟨-10800, .recurring argentina, some ⟨2008, 10, .on 18, 0, .wall⟩⟩,
   ⟨-10800, .fixed 0, none⟩]

/-- The history of America/Asuncion. -/
def americaAsuncion : List Era :=
  [⟨-13840, .fixed 0, some ⟨1890, 1, .on 1, 0, .wall⟩⟩,
   ⟨-13840, .fixed 0, some ⟨1931, 10, .on 10, 0, .wall⟩⟩,
   ⟨-14400, .fixed 0, some ⟨1972, 10, .on 1, 0, .wall⟩⟩,
   ⟨-10800, .fixed 0, some ⟨1974, 4, .on 1, 0, .wall⟩⟩,
   ⟨-14400, .recurring paraguay, some ⟨2024, 10, .on 15, 0, .wall⟩⟩,
   ⟨-10800, .fixed 0, none⟩]

/-- The history of America/Bahia. -/
def americaBahia : List Era :=
  [⟨-9244, .fixed 0, some ⟨1914, 1, .on 1, 0, .wall⟩⟩,
   ⟨-10800, .recurring brazil, some ⟨2003, 9, .on 24, 0, .wall⟩⟩,
   ⟨-10800, .fixed 0, some ⟨2011, 10, .on 16, 0, .wall⟩⟩,
   ⟨-10800, .recurring brazil, some ⟨2012, 10, .on 21, 0, .wall⟩⟩,
   ⟨-10800, .fixed 0, none⟩]

/-- The history of America/Belem. -/
def americaBelem : List Era :=
  [⟨-11636, .fixed 0, some ⟨1914, 1, .on 1, 0, .wall⟩⟩,
   ⟨-10800, .recurring brazil, some ⟨1988, 9, .on 12, 0, .wall⟩⟩,
   ⟨-10800, .fixed 0, none⟩]

/-- The history of America/Boa_Vista. -/
def americaBoaVista : List Era :=
  [⟨-14560, .fixed 0, some ⟨1914, 1, .on 1, 0, .wall⟩⟩,
   ⟨-14400, .recurring brazil, some ⟨1988, 9, .on 12, 0, .wall⟩⟩,
   ⟨-14400, .fixed 0, some ⟨1999, 9, .on 30, 0, .wall⟩⟩,
   ⟨-14400, .recurring brazil, some ⟨2000, 10, .on 15, 0, .wall⟩⟩,
   ⟨-14400, .fixed 0, none⟩]

/-- The history of America/Bogota. -/
def americaBogota : List Era :=
  [⟨-17776, .fixed 0, some ⟨1884, 3, .on 13, 0, .wall⟩⟩,
   ⟨-17776, .fixed 0, some ⟨1914, 11, .on 23, 0, .wall⟩⟩,
   ⟨-18000, .recurring colombia, none⟩]

/-- The history of America/Campo_Grande. -/
def americaCampoGrande : List Era :=
  [⟨-13108, .fixed 0, some ⟨1914, 1, .on 1, 0, .wall⟩⟩,
   ⟨-14400, .recurring brazil, none⟩]

/-- The history of America/Caracas. -/
def americaCaracas : List Era :=
  [⟨-16064, .fixed 0, some ⟨1890, 1, .on 1, 0, .wall⟩⟩,
   ⟨-16060, .fixed 0, some ⟨1912, 2, .on 12, 0, .wall⟩⟩,
   ⟨-16200, .fixed 0, some ⟨1965, 1, .on 1, 0, .wall⟩⟩,
   ⟨-14400, .fixed 0, some ⟨2007, 12, .on 9, 10800, .wall⟩⟩,
   ⟨-16200, .fixed 0, some ⟨2016, 5, .on 1, 9000, .wall⟩⟩,
   ⟨-14400, .fixed 0, none⟩]

/-- The history of America/Cayenne. -/
def americaCayenne : List Era :=
  [⟨-12560, .fixed 0, some ⟨1911, 7, .on 1, 0, .wall⟩⟩,
   ⟨-14400, .fixed 0, some ⟨1967, 10, .on 1, 0, .wall⟩⟩,
   ⟨-10800, .fixed 0, none⟩]

/-- The history of America/Coyhaique. -/
def americaCoyhaique : List Era :=
  [⟨-17296, .fixed 0, some ⟨1890, 1, .on 1, 0, .wall⟩⟩,
   ⟨-16965, .fixed 0, some ⟨1910, 1, .on 10, 0, .wall⟩⟩,
   ⟨-18000, .fixed 0, some ⟨1916, 7, .on 1, 0, .wall⟩⟩,
   ⟨-16965, .fixed 0, some ⟨1918, 9, .on 10, 0, .wall⟩⟩,
   ⟨-14400, .fixed 0, some ⟨1919, 7, .on 1, 0, .wall⟩⟩,
   ⟨-16965, .fixed 0, some ⟨1927, 9, .on 1, 0, .wall⟩⟩,
   ⟨-18000, .recurring chile, some ⟨1932, 9, .on 1, 0, .wall⟩⟩,
   ⟨-14400, .fixed 0, some ⟨1942, 6, .on 1, 0, .wall⟩⟩,
   ⟨-18000, .fixed 0, some ⟨1942, 8, .on 1, 0, .wall⟩⟩,
   ⟨-14400, .fixed 0, some ⟨1946, 8, .on 28, 86400, .wall⟩⟩,
   ⟨-18000, .fixed 3600, some ⟨1947, 3, .on 31, 86400, .wall⟩⟩,
   ⟨-18000, .fixed 0, some ⟨1947, 5, .on 21, 82800, .wall⟩⟩,
   ⟨-14400, .recurring chile, some ⟨2025, 3, .on 20, 0, .wall⟩⟩,
   ⟨-10800, .fixed 0, none⟩]

/-- The history of America/Cuiaba. -/
def americaCuiaba : List Era :=
  [⟨-13460, .fixed 0, some ⟨1914, 1, .on 1, 0, .wall⟩⟩,
   ⟨-14400, .recurring brazil, some ⟨2003, 9, .on 24, 0, .wall⟩⟩,
   ⟨-14400, .fixed 0, some ⟨2004, 10, .on 1, 0, .wall⟩⟩,
   ⟨-14400, .recurring brazil, none⟩]

/-- The history of America/Eirunepe. -/
def americaEirunepe : List Era :=
  [⟨-16768, .fixed 0, some ⟨1914, 1, .on 1, 0, .wall⟩⟩,
   ⟨-18000, .recurring brazil, some ⟨1988, 9, .on 12, 0, .wall⟩⟩,
   ⟨-18000, .fixed 0, some ⟨1993, 9, .on 28, 0, .wall⟩⟩,
   ⟨-18000, .recurring brazil, some ⟨1994, 9, .on 22, 0, .wall⟩⟩,
   ⟨-18000, .fixed 0, some ⟨2008, 6, .on 24, 0, .wall⟩⟩,
   ⟨-14400, .fixed 0, some ⟨2013, 11, .on 10, 0, .wall⟩⟩,
   ⟨-18000, .fixed 0, none⟩]

/-- The history of America/Fortaleza. -/
def americaFortaleza : List Era :=
  [⟨-9240, .fixed 0, some ⟨1914, 1, .on 1, 0, .wall⟩⟩,
   ⟨-10800, .recurring brazil, some ⟨1990, 9, .on 17, 0, .wall⟩⟩,
   ⟨-10800, .fixed 0, some ⟨1999, 9, .on 30, 0, .wall⟩⟩,
   ⟨-10800, .recurring brazil, some ⟨2000, 10, .on 22, 0, .wall⟩⟩,
   ⟨-10800, .fixed 0, some ⟨2001, 9, .on 13, 0, .wall⟩⟩,
   ⟨-10800, .recurring brazil, some ⟨2002, 10, .on 1, 0, .wall⟩⟩,
   ⟨-10800, .fixed 0, none⟩]

/-- The history of America/Guayaquil. -/
def americaGuayaquil : List Era :=
  [⟨-19160, .fixed 0, some ⟨1890, 1, .on 1, 0, .wall⟩⟩,
   ⟨-18840, .fixed 0, some ⟨1931, 1, .on 1, 0, .wall⟩⟩,
   ⟨-18000, .recurring ecuador, none⟩]

/-- The history of America/Guyana. -/
def americaGuyana : List Era :=
  [⟨-13959, .fixed 0, some ⟨1911, 8, .on 1, 0, .wall⟩⟩,
   ⟨-14400, .fixed 0, some ⟨1915, 3, .on 1, 0, .wall⟩⟩,
   ⟨-13500, .fixed 0, some ⟨1975, 8, .on 1, 0, .wall⟩⟩,
   ⟨-10800, .fixed 0, some ⟨1992, 3, .on 29, 3600, .wall⟩⟩,
   ⟨-14400, .fixed 0, none⟩]

/-- The history of America/La_Paz. -/
def americaLaPaz : List Era :=
  [⟨-16356, .fixed 0, some ⟨1890, 1, .on 1, 0, .wall⟩⟩,
   ⟨-16356, .fixed 0, some ⟨1931, 10, .on 15, 0, .wall⟩⟩,
   ⟨-16356, .fixed 3600, some ⟨1932, 3, .on 21, 0, .wall⟩⟩,
   ⟨-14400, .fixed 0, none⟩]

/-- The history of America/Lima. -/
def americaLima : List Era :=
  [⟨-18492, .fixed 0, some ⟨1890, 1, .on 1, 0, .wall⟩⟩,
   ⟨-18516, .fixed 0, some ⟨1908, 7, .on 28, 0, .wall⟩⟩,
   ⟨-18000, .recurring peru, none⟩]

/-- The history of America/Maceio. -/
def americaMaceio : List Era :=
  [⟨-8572, .fixed 0, some ⟨1914, 1, .on 1, 0, .wall⟩⟩,
   ⟨-10800, .recurring brazil, some ⟨1990, 9, .on 17, 0, .wall⟩⟩,
   ⟨-10800, .fixed 0, some ⟨1995, 10, .on 13, 0, .wall⟩⟩,
   ⟨-10800, .recurring brazil, some ⟨1996, 9, .on 4, 0, .wall⟩⟩,
   ⟨-10800, .fixed 0, some ⟨1999, 9, .on 30, 0, .wall⟩⟩,
   ⟨-10800, .recurring brazil, some ⟨2000, 10, .on 22, 0, .wall⟩⟩,
   ⟨-10800, .fixed 0, some ⟨2001, 9, .on 13, 0, .wall⟩⟩,
   ⟨-10800, .recurring brazil, some ⟨2002, 10, .on 1, 0, .wall⟩⟩,
   ⟨-10800, .fixed 0, none⟩]

/-- The history of America/Manaus. -/
def americaManaus : List Era :=
  [⟨-14404, .fixed 0, some ⟨1914, 1, .on 1, 0, .wall⟩⟩,
   ⟨-14400, .recurring brazil, some ⟨1988, 9, .on 12, 0, .wall⟩⟩,
   ⟨-14400, .fixed 0, some ⟨1993, 9, .on 28, 0, .wall⟩⟩,
   ⟨-14400, .recurring brazil, some ⟨1994, 9, .on 22, 0, .wall⟩⟩,
   ⟨-14400, .fixed 0, none⟩]

/-- The history of America/Montevideo. -/
def americaMontevideo : List Era :=
  [⟨-13491, .fixed 0, some ⟨1908, 6, .on 10, 0, .wall⟩⟩,
   ⟨-13491, .fixed 0, some ⟨1920, 5, .on 1, 0, .wall⟩⟩,
   ⟨-14400, .fixed 0, some ⟨1923, 10, .on 1, 0, .wall⟩⟩,
   ⟨-12600, .recurring uruguay, some ⟨1942, 12, .on 14, 0, .wall⟩⟩,
   ⟨-10800, .recurring uruguay, some ⟨1960, 1, .on 1, 0, .wall⟩⟩,
   ⟨-10800, .recurring uruguay, some ⟨1968, 1, .on 1, 0, .wall⟩⟩,
   ⟨-10800, .recurring uruguay, some ⟨1970, 1, .on 1, 0, .wall⟩⟩,
   ⟨-10800, .recurring uruguay, some ⟨1974, 1, .on 1, 0, .wall⟩⟩,
   ⟨-10800, .recurring uruguay, some ⟨1974, 3, .on 10, 0, .wall⟩⟩,
   ⟨-10800, .recurring uruguay, some ⟨1974, 12, .on 22, 0, .wall⟩⟩,
   ⟨-10800, .recurring uruguay, none⟩]

/-- The history of America/Noronha. -/
def americaNoronha : List Era :=
  [⟨-7780, .fixed 0, some ⟨1914, 1, .on 1, 0, .wall⟩⟩,
   ⟨-7200, .recurring brazil, some ⟨1990, 9, .on 17, 0, .wall⟩⟩,
   ⟨-7200, .fixed 0, some ⟨1999, 9, .on 30, 0, .wall⟩⟩,
   ⟨-7200, .recurring brazil, some ⟨2000, 10, .on 15, 0, .wall⟩⟩,
   ⟨-7200, .fixed 0, some ⟨2001, 9, .on 13, 0, .wall⟩⟩,
   ⟨-7200, .recurring brazil, some ⟨2002, 10, .on 1, 0, .wall⟩⟩,
   ⟨-7200, .fixed 0, none⟩]

/-- The history of America/Paramaribo. -/
def americaParamaribo : List Era :=
  [⟨-13240, .fixed 0, some ⟨1911, 1, .on 1, 0, .wall⟩⟩,
   ⟨-13252, .fixed 0, some ⟨1935, 1, .on 1, 0, .wall⟩⟩,
   ⟨-13236, .fixed 0, some ⟨1945, 10, .on 1, 0, .wall⟩⟩,
   ⟨-12600, .fixed 0, some ⟨1984, 10, .on 1, 0, .wall⟩⟩,
   ⟨-10800, .fixed 0, none⟩]

/-- The history of America/Porto_Velho. -/
def americaPortoVelho : List Era :=
  [⟨-15336, .fixed 0, some ⟨1914, 1, .on 1, 0, .wall⟩⟩,
   ⟨-14400, .recurring brazil, some ⟨1988, 9, .on 12, 0, .wall⟩⟩,
   ⟨-14400, .fixed 0, none⟩]

/-- The history of America/Punta_Arenas. -/
def americaPuntaArenas : List Era :=
  [⟨-17020, .fixed 0, some ⟨1890, 1, .on 1, 0, .wall⟩⟩,
   ⟨-16965, .fixed 0, some ⟨1910, 1, .on 10, 0, .wall⟩⟩,
   ⟨-18000, .fixed 0, some ⟨1916, 7, .on 1, 0, .wall⟩⟩,
   ⟨-16965, .fixed 0, some ⟨1918, 9, .on 10, 0, .wall⟩⟩,
   ⟨-14400, .fixed 0, some ⟨1919, 7, .on 1, 0, .wall⟩⟩,
   ⟨-16965, .fixed 0, some ⟨1927, 9, .on 1, 0, .wall⟩⟩,
   ⟨-18000, .recurring chile, some ⟨1932, 9, .on 1, 0, .wall⟩⟩,
   ⟨-14400, .fixed 0, some ⟨1942, 6, .on 1, 0, .wall⟩⟩,
   ⟨-18000, .fixed 0, some ⟨1942, 8, .on 1, 0, .wall⟩⟩,
   ⟨-14400, .fixed 0, some ⟨1946, 8, .on 28, 86400, .wall⟩⟩,
   ⟨-18000, .fixed 3600, some ⟨1947, 3, .on 31, 86400, .wall⟩⟩,
   ⟨-18000, .fixed 0, some ⟨1947, 5, .on 21, 82800, .wall⟩⟩,
   ⟨-14400, .recurring chile, some ⟨2016, 12, .on 4, 0, .wall⟩⟩,
   ⟨-10800, .fixed 0, none⟩]

/-- The history of America/Recife. -/
def americaRecife : List Era :=
  [⟨-8376, .fixed 0, some ⟨1914, 1, .on 1, 0, .wall⟩⟩,
   ⟨-10800, .recurring brazil, some ⟨1990, 9, .on 17, 0, .wall⟩⟩,
   ⟨-10800, .fixed 0, some ⟨1999, 9, .on 30, 0, .wall⟩⟩,
   ⟨-10800, .recurring brazil, some ⟨2000, 10, .on 15, 0, .wall⟩⟩,
   ⟨-10800, .fixed 0, some ⟨2001, 9, .on 13, 0, .wall⟩⟩,
   ⟨-10800, .recurring brazil, some ⟨2002, 10, .on 1, 0, .wall⟩⟩,
   ⟨-10800, .fixed 0, none⟩]

/-- The history of America/Rio_Branco. -/
def americaRioBranco : List Era :=
  [⟨-16272, .fixed 0, some ⟨1914, 1, .on 1, 0, .wall⟩⟩,
   ⟨-18000, .recurring brazil, some ⟨1988, 9, .on 12, 0, .wall⟩⟩,
   ⟨-18000, .fixed 0, some ⟨2008, 6, .on 24, 0, .wall⟩⟩,
   ⟨-14400, .fixed 0, some ⟨2013, 11, .on 10, 0, .wall⟩⟩,
   ⟨-18000, .fixed 0, none⟩]

/-- The history of America/Santarem. -/
def americaSantarem : List Era :=
  [⟨-13128, .fixed 0, some ⟨1914, 1, .on 1, 0, .wall⟩⟩,
   ⟨-14400, .recurring brazil, some ⟨1988, 9, .on 12, 0, .wall⟩⟩,
   ⟨-14400, .fixed 0, some ⟨2008, 6, .on 24, 0, .wall⟩⟩,
   ⟨-10800, .fixed 0, none⟩]

/-- The history of America/Santiago. -/
def americaSantiago : List Era :=
  [⟨-16965, .fixed 0, some ⟨1890, 1, .on 1, 0, .wall⟩⟩,
   ⟨-16965, .fixed 0, some ⟨1910, 1, .on 10, 0, .wall⟩⟩,
   ⟨-18000, .fixed 0, some ⟨1916, 7, .on 1, 0, .wall⟩⟩,
   ⟨-16965, .fixed 0, some ⟨1918, 9, .on 10, 0, .wall⟩⟩,
   ⟨-14400, .fixed 0, some ⟨1919, 7, .on 1, 0, .wall⟩⟩,
   ⟨-16965, .fixed 0, some ⟨1927, 9, .on 1, 0, .wall⟩⟩,
   ⟨-18000, .recurring chile, some ⟨1932, 9, .on 1, 0, .wall⟩⟩,
   ⟨-14400, .fixed 0, some ⟨1942, 6, .on 1, 0, .wall⟩⟩,
   ⟨-18000, .fixed 0, some ⟨1942, 8, .on 1, 0, .wall⟩⟩,
   ⟨-14400, .fixed 0, some ⟨1946, 7, .on 14, 86400, .wall⟩⟩,
   ⟨-14400, .fixed 3600, some ⟨1946, 8, .on 28, 86400, .wall⟩⟩,
   ⟨-18000, .fixed 3600, some ⟨1947, 3, .on 31, 86400, .wall⟩⟩,
   ⟨-18000, .fixed 0, some ⟨1947, 5, .on 21, 82800, .wall⟩⟩,
   ⟨-14400, .recurring chile, none⟩]

/-- The history of America/Sao_Paulo. -/
def americaSaoPaulo : List Era :=
  [⟨-11188, .fixed 0, some ⟨1914, 1, .on 1, 0, .wall⟩⟩,
   ⟨-10800, .recurring brazil, some ⟨1963, 10, .on 23, 0, .wall⟩⟩,
   ⟨-10800, .fixed 3600, some ⟨1964, 1, .on 1, 0, .wall⟩⟩,
   ⟨-10800, .recurring brazil, none⟩]

/-- The zones of South America by name. -/
def southAmericaZones : List (String × List Era) :=
  [("America/Araguaina", americaAraguaina),
   ("America/Argentina/Buenos_Aires", americaArgentinaBuenosAires),
   ("America/Argentina/Catamarca", americaArgentinaCatamarca),
   ("America/Argentina/Cordoba", americaArgentinaCordoba),
   ("America/Argentina/Jujuy", americaArgentinaJujuy),
   ("America/Argentina/La_Rioja", americaArgentinaLaRioja),
   ("America/Argentina/Mendoza", americaArgentinaMendoza),
   ("America/Argentina/Rio_Gallegos", americaArgentinaRioGallegos),
   ("America/Argentina/Salta", americaArgentinaSalta),
   ("America/Argentina/San_Juan", americaArgentinaSanJuan),
   ("America/Argentina/San_Luis", americaArgentinaSanLuis),
   ("America/Argentina/Tucuman", americaArgentinaTucuman),
   ("America/Argentina/Ushuaia", americaArgentinaUshuaia),
   ("America/Asuncion", americaAsuncion),
   ("America/Bahia", americaBahia),
   ("America/Belem", americaBelem),
   ("America/Boa_Vista", americaBoaVista),
   ("America/Bogota", americaBogota),
   ("America/Campo_Grande", americaCampoGrande),
   ("America/Caracas", americaCaracas),
   ("America/Cayenne", americaCayenne),
   ("America/Coyhaique", americaCoyhaique),
   ("America/Cuiaba", americaCuiaba),
   ("America/Eirunepe", americaEirunepe),
   ("America/Fortaleza", americaFortaleza),
   ("America/Guayaquil", americaGuayaquil),
   ("America/Guyana", americaGuyana),
   ("America/La_Paz", americaLaPaz),
   ("America/Lima", americaLima),
   ("America/Maceio", americaMaceio),
   ("America/Manaus", americaManaus),
   ("America/Montevideo", americaMontevideo),
   ("America/Noronha", americaNoronha),
   ("America/Paramaribo", americaParamaribo),
   ("America/Porto_Velho", americaPortoVelho),
   ("America/Punta_Arenas", americaPuntaArenas),
   ("America/Recife", americaRecife),
   ("America/Rio_Branco", americaRioBranco),
   ("America/Santarem", americaSantarem),
   ("America/Santiago", americaSantiago),
   ("America/Sao_Paulo", americaSaoPaulo)]

end Daybook.Zone.Tables
