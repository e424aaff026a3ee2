import Daybook.Zone.Tables.Shared

/-!
# The clocks of Africa

The recurring rules and the histories of the zones of this area, and the list of its zones by name.
-/

namespace Daybook.Zone.Tables

/-! ### Rules -/

/-- The rules of Algeria. -/
def algeria : List Rule :=
  [⟨1916, 1916, 6, .on 14, 82800, .standard, 3600⟩,
   ⟨1916, 1919, 10, .onOrAfter .sun 1, 82800, .standard, 0⟩,
   ⟨1917, 1917, 3, .on 24, 82800, .standard, 3600⟩,
   ⟨1918, 1918, 3, .on 9, 82800, .standard, 3600⟩,
   ⟨1919, 1919, 3, .on 1, 82800, .standard, 3600⟩,
   ⟨1920, 1920, 2, .on 14, 82800, .standard, 3600⟩,
   ⟨1920, 1920, 10, .on 23, 82800, .standard, 0⟩,
   ⟨1921, 1921, 3, .on 14, 82800, .standard, 3600⟩,
   ⟨1921, 1921, 6, .on 21, 82800, .standard, 0⟩,
   ⟨1939, 1939, 9, .on 11, 82800, .standard, 3600⟩,
   ⟨1939, 1939, 11, .on 19, 3600, .wall, 0⟩,
   ⟨1944, 1945, 4, .onOrAfter .mon 1, 7200, .wall, 3600⟩,
   ⟨1944, 1944, 10, .on 8, 7200, .wall, 0⟩,
   ⟨1945, 1945, 9, .on 16, 3600, .wall, 0⟩,
   ⟨1971, 1971, 4, .on 25, 82800, .standard, 3600⟩,
   ⟨1971, 1971, 9, .on 26, 82800, .standard, 0⟩,
   ⟨1977, 1977, 5, .on 6, 0, .wall, 3600⟩,
   ⟨1977, 1977, 10, .on 21, 0, .wall, 0⟩,
   ⟨1978, 1978, 3, .on 24, 3600, .wall, 3600⟩,
   ⟨1978, 1978, 9, .on 22, 10800, .wall, 0⟩,
   ⟨1980, 1980, 4, .on 25, 0, .wall, 3600⟩,
   ⟨1980, 1980, 10, .on 31, 7200, .wall, 0⟩]

/-- The rules of Libya. -/
def libya : List Rule :=
  [⟨1951, 1951, 10, .on 14, 7200, .wall, 3600⟩,
   ⟨1952, 1952, 1, .on 1, 0, .wall, 0⟩,
   ⟨1953, 1953, 10, .on 9, 7200, .wall, 3600⟩,
   ⟨1954, 1954, 1, .on 1, 0, .wall, 0⟩,
   ⟨1955, 1955, 9, .on 30, 0, .wall, 3600⟩,
   ⟨1956, 1956, 1, .on 1, 0, .wall, 0⟩,
   ⟨1982, 1984, 4, .on 1, 0, .wall, 3600⟩,
   ⟨1982, 1985, 10, .on 1, 0, .wall, 0⟩,
   ⟨1985, 1985, 4, .on 6, 0, .wall, 3600⟩,
   ⟨1986, 1986, 4, .on 4, 0, .wall, 3600⟩,
   ⟨1986, 1986, 10, .on 3, 0, .wall, 0⟩,
   ⟨1987, 1989, 4, .on 1, 0, .wall, 3600⟩,
   ⟨1987, 1989, 10, .on 1, 0, .wall, 0⟩,
   ⟨1997, 1997, 4, .on 4, 0, .wall, 3600⟩,
   ⟨1997, 1997, 10, .on 4, 0, .wall, 0⟩,
   ⟨2013, 2013, 3, .last .fri, 3600, .wall, 3600⟩,
   ⟨2013, 2013, 10, .last .fri, 7200, .wall, 0⟩]

/-- The rules of Morocco. -/
def morocco : List Rule :=
  [⟨1939, 1939, 9, .on 12, 0, .wall, 3600⟩,
   ⟨1939, 1939, 11, .on 19, 0, .wall, 0⟩,
   ⟨1940, 1940, 2, .on 25, 0, .wall, 3600⟩,
   ⟨1945, 1945, 11, .on 18, 0, .wall, 0⟩,
   ⟨1950, 1950, 6, .on 11, 0, .wall, 3600⟩,
   ⟨1950, 1950, 10, .on 29, 0, .wall, 0⟩,
   ⟨1967, 1967, 6, .on 3, 43200, .wall, 3600⟩,
   ⟨1967, 1967, 10, .on 1, 0, .wall, 0⟩,
   ⟨1974, 1974, 6, .on 24, 0, .wall, 3600⟩,
   ⟨1974, 1974, 9, .on 1, 0, .wall, 0⟩,
   ⟨1976, 1977, 5, .on 1, 0, .wall, 3600⟩,
   ⟨1976, 1976, 8, .on 1, 0, .wall, 0⟩,
   ⟨1977, 1977, 9, .on 28, 0, .wall, 0⟩,
   ⟨1978, 1978, 6, .on 1, 0, .wall, 3600⟩,
   ⟨1978, 1978, 8, .on 4, 0, .wall, 0⟩,
   ⟨2008, 2008, 6, .on 1, 0, .wall, 3600⟩,
   ⟨2008, 2008, 9, .on 1, 0, .wall, 0⟩,
   ⟨2009, 2009, 6, .on 1, 0, .wall, 3600⟩,
   ⟨2009, 2009, 8, .on 21, 0, .wall, 0⟩,
   ⟨2010, 2010, 5, .on 2, 0, .wall, 3600⟩,
   ⟨2010, 2010, 8, .on 8, 0, .wall, 0⟩,
   ⟨2011, 2011, 4, .on 3, 0, .wall, 3600⟩,
   ⟨2011, 2011, 7, .on 31, 0, .wall, 0⟩,
   ⟨2012, 2013, 4, .last .sun, 7200, .wall, 3600⟩,
   ⟨2012, 2012, 7, .on 20, 10800, .wall, 0⟩,
   ⟨2012, 2012, 8, .on 20, 7200, .wall, 3600⟩,
   ⟨2012, 2012, 9, .on 30, 10800, .wall, 0⟩,
   ⟨2013, 2013, 7, .on 7, 10800, .wall, 0⟩,
   ⟨2013, 2013, 8, .on 10, 7200, .wall, 3600⟩,
   ⟨2013, 2018, 10, .last .sun, 10800, .wall, 0⟩,
   ⟨2014, 2018, 3, .last .sun, 7200, .wall, 3600⟩,
   ⟨2014, 2014, 6, .on 28, 10800, .wall, 0⟩,
   ⟨2014, 2014, 8, .on 2, 7200, .wall, 3600⟩,
   ⟨2015, 2015, 6, .on 14, 10800, .wall, 0⟩,
   ⟨2015, 2015, 7, .on 19, 7200, .wall, 3600⟩,
   ⟨2016, 2016, 6, .on 5, 10800, .wall, 0⟩,
   ⟨2016, 2016, 7, .on 10, 7200, .wall, 3600⟩,
   ⟨2017, 2017, 5, .on 21, 10800, .wall, 0⟩,
   ⟨2017, 2017, 7, .on 2, 7200, .wall, 3600⟩,
   ⟨2018, 2018, 5, .on 13, 10800, .wall, 0⟩,
   ⟨2018, 2018, 6, .on 17, 7200, .wall, 3600⟩,
   ⟨2019, 2019, 5, .on 5, 10800, .wall, -3600⟩,
   ⟨2019, 2019, 6, .on 9, 7200, .wall, 0⟩,
   ⟨2020, 2020, 4, .on 19, 10800, .wall, -3600⟩,
   ⟨2020, 2020, 5, .on 31, 7200, .wall, 0⟩,
   ⟨2021, 2021, 4, .on 11, 10800, .wall, -3600⟩,
   ⟨2021, 2021, 5, .on 16, 7200, .wall, 0⟩,
   ⟨2022, 2022, 3, .on 27, 10800, .wall, -3600⟩,
   ⟨2022, 2022, 5, .on 8, 7200, .wall, 0⟩,
   ⟨2023, 2023, 3, .on 19, 10800, .wall, -3600⟩,
   ⟨2023, 2023, 4, .on 23, 7200, .wall, 0⟩,
   ⟨2024, 2024, 3, .on 10, 10800, .wall, -3600⟩,
   ⟨2024, 2024, 4, .on 14, 7200, .wall, 0⟩,
   ⟨2025, 2025, 2, .on 23, 10800, .wall, -3600⟩,
   ⟨2025, 2025, 4, .on 6, 7200, .wall, 0⟩,
   ⟨2026, 2026, 2, .on 15, 10800, .wall, -3600⟩,
   ⟨2026, 2026, 3, .on 22, 7200, .wall, 0⟩,
   ⟨2027, 2027, 2, .on 7, 10800, .wall, -3600⟩,
   ⟨2027, 2027, 3, .on 14, 7200, .wall, 0⟩,
   ⟨2028, 2028, 1, .on 23, 10800, .wall, -3600⟩,
   ⟨2028, 2028, 3, .on 5, 7200, .wall, 0⟩,
   ⟨2029, 2029, 1, .on 14, 10800, .wall, -3600⟩,
   ⟨2029, 2029, 2, .on 18, 7200, .wall, 0⟩,
   ⟨2029, 2029, 12, .on 30, 10800, .wall, -3600⟩,
   ⟨2030, 2030, 2, .on 10, 7200, .wall, 0⟩,
   ⟨2030, 2030, 12, .on 22, 10800, .wall, -3600⟩,
   ⟨2031, 2031, 1, .on 26, 7200, .wall, 0⟩,
   ⟨2031, 2031, 12, .on 14, 10800, .wall, -3600⟩,
   ⟨2032, 2032, 1, .on 18, 7200, .wall, 0⟩,
   ⟨2032, 2032, 11, .on 28, 10800, .wall, -3600⟩,
   ⟨2033, 2033, 1, .on 9, 7200, .wall, 0⟩,
   ⟨2033, 2033, 11, .on 20, 10800, .wall, -3600⟩,
   ⟨2033, 2033, 12, .on 25, 7200, .wall, 0⟩,
   ⟨2034, 2034, 11, .on 5, 10800, .wall, -3600⟩,
   ⟨2034, 2034, 12, .on 17, 7200, .wall, 0⟩,
   ⟨2035, 2035, 10, .on 28, 10800, .wall, -3600⟩,
   ⟨2035, 2035, 12, .on 9, 7200, .wall, 0⟩,
   ⟨2036, 2036, 10, .on 19, 10800, .wall, -3600⟩,
   ⟨2036, 2036, 11, .on 23, 7200, .wall, 0⟩,
   ⟨2037, 2037, 10, .on 4, 10800, .wall, -3600⟩,
   ⟨2037, 2037, 11, .on 15, 7200, .wall, 0⟩,
   ⟨2038, 2038, 9, .on 26, 10800, .wall, -3600⟩,
   ⟨2038, 2038, 10, .on 31, 7200, .wall, 0⟩,
   ⟨2039, 2039, 9, .on 18, 10800, .wall, -3600⟩,
   ⟨2039, 2039, 10, .on 23, 7200, .wall, 0⟩,
   ⟨2040, 2040, 9, .on 2, 10800, .wall, -3600⟩,
   ⟨2040, 2040, 10, .on 14, 7200, .wall, 0⟩,
   ⟨2041, 2041, 8, .on 25, 10800, .wall, -3600⟩,
   ⟨2041, 2041, 9, .on 29, 7200, .wall, 0⟩,
   ⟨2042, 2042, 8, .on 10, 10800, .wall, -3600⟩,
   ⟨2042, 2042, 9, .on 21, 7200, .wall, 0⟩,
   ⟨2043, 2043, 8, .on 2, 10800, .wall, -3600⟩,
   ⟨2043, 2043, 9, .on 13, 7200, .wall, 0⟩,
   ⟨2044, 2044, 7, .on 24, 10800, .wall, -3600⟩,
   ⟨2044, 2044, 8, .on 28, 7200, .wall, 0⟩,
   ⟨2045, 2045, 7, .on 9, 10800, .wall, -3600⟩,
   ⟨2045, 2045, 8, .on 20, 7200, .wall, 0⟩,
   ⟨2046, 2046, 7, .on 1, 10800, .wall, -3600⟩,
   ⟨2046, 2046, 8, .on 5, 7200, .wall, 0⟩,
   ⟨2047, 2047, 6, .on 23, 10800, .wall, -3600⟩,
   ⟨2047, 2047, 7, .on 28, 7200, .wall, 0⟩,
   ⟨2048, 2048, 6, .on 7, 10800, .wall, -3600⟩,
   ⟨2048, 2048, 7, .on 19, 7200, .wall, 0⟩,
   ⟨2049, 2049, 5, .on 30, 10800, .wall, -3600⟩,
   ⟨2049, 2049, 7, .on 4, 7200, .wall, 0⟩,
   ⟨2050, 2050, 5, .on 15, 10800, .wall, -3600⟩,
   ⟨2050, 2050, 6, .on 26, 7200, .wall, 0⟩,
   ⟨2051, 2051, 5, .on 7, 10800, .wall, -3600⟩,
   ⟨2051, 2051, 6, .on 18, 7200, .wall, 0⟩,
   ⟨2052, 2052, 4, .on 28, 10800, .wall, -3600⟩,
   ⟨2052, 2052, 6, .on 2, 7200, .wall, 0⟩,
   ⟨2053, 2053, 4, .on 13, 10800, .wall, -3600⟩,
   ⟨2053, 2053, 5, .on 25, 7200, .wall, 0⟩,
   ⟨2054, 2054, 4, .on 5, 10800, .wall, -3600⟩,
   ⟨2054, 2054, 5, .on 10, 7200, .wall, 0⟩,
   ⟨2055, 2055, 3, .on 28, 10800, .wall, -3600⟩,
   ⟨2055, 2055, 5, .on 2, 7200, .wall, 0⟩,
   ⟨2056, 2056, 3, .on 12, 10800, .wall, -3600⟩,
   ⟨2056, 2056, 4, .on 23, 7200, .wall, 0⟩,
   ⟨2057, 2057, 3, .on 4, 10800, .wall, -3600⟩,
   ⟨2057, 2057, 4, .on 8, 7200, .wall, 0⟩,
   ⟨2058, 2058, 2, .on 17, 10800, .wall, -3600⟩,
   ⟨2058, 2058, 3, .on 31, 7200, .wall, 0⟩,
   ⟨2059, 2059, 2, .on 9, 10800, .wall, -3600⟩,
   ⟨2059, 2059, 3, .on 23, 7200, .wall, 0⟩,
   ⟨2060, 2060, 2, .on 1, 10800, .wall, -3600⟩,
   ⟨2060, 2060, 3, .on 7, 7200, .wall, 0⟩,
   ⟨2061, 2061, 1, .on 16, 10800, .wall, -3600⟩,
   ⟨2061, 2061, 2, .on 27, 7200, .wall, 0⟩,
   ⟨2062, 2062, 1, .on 8, 10800, .wall, -3600⟩,
   ⟨2062, 2062, 2, .on 12, 7200, .wall, 0⟩,
   ⟨2062, 2062, 12, .on 31, 10800, .wall, -3600⟩,
   ⟨2063, 2063, 2, .on 4, 7200, .wall, 0⟩,
   ⟨2063, 2063, 12, .on 16, 10800, .wall, -3600⟩,
   ⟨2064, 2064, 1, .on 27, 7200, .wall, 0⟩,
   ⟨2064, 2064, 12, .on 7, 10800, .wall, -3600⟩,
   ⟨2065, 2065, 1, .on 11, 7200, .wall, 0⟩,
   ⟨2065, 2065, 11, .on 22, 10800, .wall, -3600⟩,
   ⟨2066, 2066, 1, .on 3, 7200, .wall, 0⟩,
   ⟨2066, 2066, 11, .on 14, 10800, .wall, -3600⟩,
   ⟨2066, 2066, 12, .on 26, 7200, .wall, 0⟩,
   ⟨2067, 2067, 11, .on 6, 10800, .wall, -3600⟩,
   ⟨2067, 2067, 12, .on 11, 7200, .wall, 0⟩,
   ⟨2068, 2068, 10, .on 21, 10800, .wall, -3600⟩,
   ⟨2068, 2068, 12, .on 2, 7200, .wall, 0⟩,
   ⟨2069, 2069, 10, .on 13, 10800, .wall, -3600⟩,
   ⟨2069, 2069, 11, .on 17, 7200, .wall, 0⟩,
   ⟨2070, 2070, 10, .on 5, 10800, .wall, -3600⟩,
   ⟨2070, 2070, 11, .on 9, 7200, .wall, 0⟩,
   ⟨2071, 2071, 9, .on 20, 10800, .wall, -3600⟩,
   ⟨2071, 2071, 11, .on 1, 7200, .wall, 0⟩,
   ⟨2072, 2072, 9, .on 11, 10800, .wall, -3600⟩,
   ⟨2072, 2072, 10, .on 16, 7200, .wall, 0⟩,
   ⟨2073, 2073, 8, .on 27, 10800, .wall, -3600⟩,
   ⟨2073, 2073, 10, .on 8, 7200, .wall, 0⟩,
   ⟨2074, 2074, 8, .on 19, 10800, .wall, -3600⟩,
   ⟨2074, 2074, 9, .on 30, 7200, .wall, 0⟩,
   ⟨2075, 2075, 8, .on 11, 10800, .wall, -3600⟩,
   ⟨2075, 2075, 9, .on 15, 7200, .wall, 0⟩,
   ⟨2076, 2076, 7, .on 26, 10800, .wall, -3600⟩,
   ⟨2076, 2076, 9, .on 6, 7200, .wall, 0⟩,
   ⟨2077, 2077, 7, .on 18, 10800, .wall, -3600⟩,
   ⟨2077, 2077, 8, .on 22, 7200, .wall, 0⟩,
   ⟨2078, 2078, 7, .on 10, 10800, .wall, -3600⟩,
   ⟨2078, 2078, 8, .on 14, 7200, .wall, 0⟩,
   ⟨2079, 2079, 6, .on 25, 10800, .wall, -3600⟩,
   ⟨2079, 2079, 8, .on 6, 7200, .wall, 0⟩,
   ⟨2080, 2080, 6, .on 16, 10800, .wall, -3600⟩,
   ⟨2080, 2080, 7, .on 21, 7200, .wall, 0⟩,
   ⟨2081, 2081, 6, .on 1, 10800, .wall, -3600⟩,
   ⟨2081, 2081, 7, .on 13, 7200, .wall, 0⟩,
   ⟨2082, 2082, 5, .on 24, 10800, .wall, -3600⟩,
   ⟨2082, 2082, 6, .on 28, 7200, .wall, 0⟩,
   ⟨2083, 2083, 5, .on 16, 10800, .wall, -3600⟩,
   ⟨2083, 2083, 6, .on 20, 7200, .wall, 0⟩,
   ⟨2084, 2084, 4, .on 30, 10800, .wall, -3600⟩,
   ⟨2084, 2084, 6, .on 11, 7200, .wall, 0⟩,
   ⟨2085, 2085, 4, .on 22, 10800, .wall, -3600⟩,
   ⟨2085, 2085, 5, .on 27, 7200, .wall, 0⟩,
   ⟨2086, 2086, 4, .on 14, 10800, .wall, -3600⟩,
   ⟨2086, 2086, 5, .on 19, 7200, .wall, 0⟩,
   ⟨2087, 2087, 3, .on 30, 10800, .wall, -3600⟩,
   ⟨2087, 2087, 5, .on 11, 7200, .wall, 0⟩]

/-- The rules of Namibia. -/
def namibia : List Rule :=
  [⟨1994, 1994, 3, .on 21, 0, .wall, -3600⟩,
   ⟨1994, 2017, 9, .onOrAfter .sun 1, 7200, .wall, 0⟩,
   ⟨1995, 2017, 4, .onOrAfter .sun 1, 7200, .wall, -3600⟩]

/-- The rules of South Africa. -/
def southAfrica : List Rule :=
  [⟨1942, 1943, 9, .onOrAfter .sun 15, 7200, .wall, 3600⟩,
   ⟨1943, 1944, 3, .onOrAfter .sun 15, 7200, .wall, 0⟩]

/-- The rules of Spain Africa. -/
def spainAfrica : List Rule :=
  [⟨1967, 1967, 6, .on 3, 43200, .wall, 3600⟩,
   ⟨1967, 1967, 10, .on 1, 0, .wall, 0⟩,
   ⟨1974, 1974, 6, .on 24, 0, .wall, 3600⟩,
   ⟨1974, 1974, 9, .on 1, 0, .wall, 0⟩,
   ⟨1976, 1977, 5, .on 1, 0, .wall, 3600⟩,
   ⟨1976, 1976, 8, .on 1, 0, .wall, 0⟩,
   ⟨1977, 1977, 9, .on 28, 0, .wall, 0⟩,
   ⟨1978, 1978, 6, .on 1, 0, .wall, 3600⟩,
   ⟨1978, 1978, 8, .on 4, 0, .wall, 0⟩]

/-- The rules of Sudan. -/
def sudan : List Rule :=
  [⟨1970, 1970, 5, .on 1, 0, .wall, 3600⟩,
   ⟨1970, 1985, 10, .on 15, 0, .wall, 0⟩,
   ⟨1971, 1971, 4, .on 30, 0, .wall, 3600⟩,
   ⟨1972, 1985, 4, .last .sun, 0, .wall, 3600⟩]

/-- The rules of Tunisia. -/
def tunisia : List Rule :=
  [⟨1939, 1939, 4, .on 15, 82800, .standard, 3600⟩,
   ⟨1939, 1939, 11, .on 18, 82800, .standard, 0⟩,
   ⟨1940, 1940, 2, .on 25, 82800, .standard, 3600⟩,
   ⟨1941, 1941, 10, .on 6, 0, .wall, 0⟩,
   ⟨1942, 1942, 3, .on 9, 0, .wall, 3600⟩,
   ⟨1942, 1942, 11, .on 2, 10800, .wall, 0⟩,
   ⟨1943, 1943, 3, .on 29, 7200, .wall, 3600⟩,
   ⟨1943, 1943, 4, .on 17, 7200, .wall, 0⟩,
   ⟨1943, 1943, 4, .on 25, 7200, .wall, 3600⟩,
   ⟨1943, 1943, 10, .on 4, 7200, .wall, 0⟩,
   ⟨1944, 1945, 4, .onOrAfter .mon 1, 7200, .wall, 3600⟩,
   ⟨1944, 1944, 10, .on 8, 0, .wall, 0⟩,
   ⟨1945, 1945, 9, .on 16, 0, .wall, 0⟩,
   ⟨1977, 1977, 4, .on 30, 0, .standard, 3600⟩,
   ⟨1977, 1977, 9, .on 24, 0, .standard, 0⟩,
   ⟨1978, 1978, 5, .on 1, 0, .standard, 3600⟩,
   ⟨1978, 1978, 10, .on 1, 0, .standard, 0⟩,
   ⟨1988, 1988, 6, .on 1, 0, .standard, 3600⟩,
   ⟨1988, 1990, 9, .last .sun, 0, .standard, 0⟩,
   ⟨1989, 1989, 3, .on 26, 0, .standard, 3600⟩,
   ⟨1990, 1990, 5, .on 1, 0, .standard, 3600⟩,
   ⟨2005, 2005, 5, .on 1, 0, .standard, 3600⟩,
   ⟨2005, 2005, 9, .on 30, 3600, .standard, 0⟩,
   ⟨2006, 2008, 3, .last .sun, 7200, .standard, 3600⟩,
   ⟨2006, 2008, 10, .last .sun, 7200, .standard, 0⟩]

/-! ### Histories -/

/-- The history of Africa/Abidjan. -/
def africaAbidjan : List Era :=
  [⟨-968, .fixed 0, some ⟨1912, 1, .on 1, 0, .wall⟩⟩,
   ⟨0, .fixed 0, none⟩]

/-- The history of Africa/Algiers. -/
def africaAlgiers : List Era :=
  [⟨732, .fixed 0, some ⟨1891, 3, .on 16, 0, .wall⟩⟩,
   ⟨561, .fixed 0, some ⟨1911, 3, .on 11, 0, .wall⟩⟩,
   ⟨0, .recurring algeria, some ⟨1940, 2, .on 25, 7200, .wall⟩⟩,
   ⟨3600, .recurring algeria, some ⟨1946, 10, .on 7, 0, .wall⟩⟩,
   ⟨0, .fixed 0, some ⟨1956, 1, .on 29, 0, .wall⟩⟩,
   ⟨3600, .fixed 0, some ⟨1963, 4, .on 14, 0, .wall⟩⟩,
   ⟨0, .recurring algeria, some ⟨1977, 10, .on 21, 0, .wall⟩⟩,
   ⟨3600, .recurring algeria, some ⟨1979, 10, .on 26, 0, .wall⟩⟩,
   ⟨0, .recurring algeria, some ⟨1981, 5, .on 1, 0, .wall⟩⟩,
   ⟨3600, .fixed 0, none⟩]

/-- The history of Africa/Bissau. -/
def africaBissau : List Era :=
  [⟨-3740, .fixed 0, some ⟨1912, 1, .on 1, 3600, .universal⟩⟩,
   ⟨-3600, .fixed 0, some ⟨1975, 1, .on 1, 0, .wall⟩⟩,
   ⟨0, .fixed 0, none⟩]

/-- The history of Africa/Cairo. -/
def africaCairo : List Era :=
  [⟨7509, .fixed 0, some ⟨1900, 10, .on 1, 0, .wall⟩⟩,
   ⟨7200, .recurring egypt, none⟩]

/-- The history of Africa/Casablanca. -/
def africaCasablanca : List Era :=
  [⟨-1820, .fixed 0, some ⟨1913, 10, .on 26, 0, .wall⟩⟩,
   ⟨0, .recurring morocco, some ⟨1984, 3, .on 16, 0, .wall⟩⟩,
   ⟨3600, .fixed 0, some ⟨1986, 1, .on 1, 0, .wall⟩⟩,
   ⟨0, .recurring morocco, some ⟨2018, 10, .on 28, 10800, .wall⟩⟩,
   ⟨3600, .recurring morocco, none⟩]

/-- The history of Africa/Ceuta. -/
def africaCeuta : List Era :=
  [⟨-1276, .fixed 0, some ⟨1901, 1, .on 1, 0, .universal⟩⟩,
   ⟨0, .fixed 0, some ⟨1918, 5, .on 6, 82800, .wall⟩⟩,
   ⟨0, .fixed 3600, some ⟨1918, 10, .on 7, 82800, .wall⟩⟩,
   ⟨0, .fixed 0, some ⟨1924, 1, .on 1, 0, .wall⟩⟩,
   ⟨0, .recurring spain, some ⟨1929, 1, .on 1, 0, .wall⟩⟩,
   ⟨0, .fixed 0, some ⟨1967, 1, .on 1, 0, .wall⟩⟩,
   ⟨0, .recurring spainAfrica, some ⟨1984, 3, .on 16, 0, .wall⟩⟩,
   ⟨3600, .fixed 0, some ⟨1986, 1, .on 1, 0, .wall⟩⟩,
   ⟨3600, .recurring europeanUnion, none⟩]

/-- The history of Africa/El_Aaiun. -/
def africaElAaiun : List Era :=
  [⟨-3168, .fixed 0, some ⟨1934, 1, .on 1, 0, .wall⟩⟩,
   ⟨-3600, .fixed 0, some ⟨1976, 4, .on 14, 0, .wall⟩⟩,
   ⟨0, .recurring morocco, some ⟨2018, 10, .on 28, 10800, .wall⟩⟩,
   ⟨3600, .recurring morocco, none⟩]

/-- The history of Africa/Johannesburg. -/
def africaJohannesburg : List Era :=
  [⟨6720, .fixed 0, some ⟨1892, 2, .on 8, 0, .wall⟩⟩,
   ⟨5400, .fixed 0, some ⟨1903, 3, .on 1, 0, .wall⟩⟩,
   ⟨7200, .recurring southAfrica, none⟩]

/-- The history of Africa/Juba. -/
def africaJuba : List Era :=
  [⟨7588, .fixed 0, some ⟨1931, 1, .on 1, 0, .wall⟩⟩,
   ⟨7200, .recurring sudan, some ⟨2000, 1, .on 15, 43200, .wall⟩⟩,
   ⟨10800, .fixed 0, some ⟨2021, 2, .on 1, 0, .wall⟩⟩,
   ⟨7200, .fixed 0, none⟩]

/-- The history of Africa/Khartoum. -/
def africaKhartoum : List Era :=
  [⟨7808, .fixed 0, some ⟨1931, 1, .on 1, 0, .wall⟩⟩,
   ⟨7200, .recurring sudan, some ⟨2000, 1, .on 15, 43200, .wall⟩⟩,
   ⟨10800, .fixed 0, some ⟨2017, 11, .on 1, 0, .wall⟩⟩,
   ⟨7200, .fixed 0, none⟩]

/-- The history of Africa/Lagos. -/
def africaLagos : List Era :=
  [⟨815, .fixed 0, some ⟨1905, 7, .on 1, 0, .wall⟩⟩,
   ⟨0, .fixed 0, some ⟨1908, 7, .on 1, 0, .wall⟩⟩,
   ⟨815, .fixed 0, some ⟨1914, 1, .on 1, 0, .wall⟩⟩,
   ⟨1800, .fixed 0, some ⟨1919, 9, .on 1, 0, .wall⟩⟩,
   ⟨3600, .fixed 0, none⟩]

/-- The history of Africa/Maputo. -/
def africaMaputo : List Era :=
  [⟨7818, .fixed 0, some ⟨1909, 1, .on 1, 0, .wall⟩⟩,
   ⟨7200, .fixed 0, none⟩]

/-- The history of Africa/Monrovia. -/
def africaMonrovia : List Era :=
  [⟨-2588, .fixed 0, some ⟨1882, 1, .on 1, 0, .wall⟩⟩,
   ⟨-2588, .fixed 0, some ⟨1919, 3, .on 1, 0, .wall⟩⟩,
   ⟨-2670, .fixed 0, some ⟨1972, 1, .on 7, 0, .wall⟩⟩,
   ⟨0, .fixed 0, none⟩]

/-- The history of Africa/Nairobi. -/
def africaNairobi : List Era :=
  [⟨8836, .fixed 0, some ⟨1908, 5, .on 1, 0, .wall⟩⟩,
   ⟨9000, .fixed 0, some ⟨1928, 6, .on 30, 86400, .wall⟩⟩,
   ⟨10800, .fixed 0, some ⟨1930, 1, .on 4, 86400, .wall⟩⟩,
   ⟨9000, .fixed 0, some ⟨1936, 12, .on 31, 86400, .wall⟩⟩,
   ⟨9900, .fixed 0, some ⟨1942, 7, .on 31, 86400, .wall⟩⟩,
   ⟨10800, .fixed 0, none⟩]

/-- The history of Africa/Ndjamena. -/
def africaNdjamena : List Era :=
  [⟨3612, .fixed 0, some ⟨1912, 1, .on 1, 0, .wall⟩⟩,
   ⟨3600, .fixed 0, some ⟨1979, 10, .on 14, 0, .wall⟩⟩,
   ⟨3600, .fixed 3600, some ⟨1980, 3, .on 8, 0, .wall⟩⟩,
   ⟨3600, .fixed 0, none⟩]

/-- The history of Africa/Sao_Tome. -/
def africaSaoTome : List Era :=
  [⟨1616, .fixed 0, some ⟨1884, 1, .on 1, 0, .wall⟩⟩,
   ⟨-2205, .fixed 0, some ⟨1912, 1, .on 1, 0, .universal⟩⟩,
   ⟨0, .fixed 0, some ⟨2018, 1, .on 1, 3600, .wall⟩⟩,
   ⟨3600, .fixed 0, some ⟨2019, 1, .on 1, 7200, .wall⟩⟩,
   ⟨0, .fixed 0, none⟩]

/-- The history of Africa/Tripoli. -/
def africaTripoli : List Era :=
  [⟨3164, .fixed 0, some ⟨1920, 1, .on 1, 0, .wall⟩⟩,
   ⟨3600, .recurring libya, some ⟨1959, 1, .on 1, 0, .wall⟩⟩,
   ⟨7200, .fixed 0, some ⟨1982, 1, .on 1, 0, .wall⟩⟩,
   ⟨3600, .recurring libya, some ⟨1990, 5, .on 4, 0, .wall⟩⟩,
   ⟨7200, .fixed 0, some ⟨1996, 9, .on 30, 0, .wall⟩⟩,
   ⟨3600, .recurring libya, some ⟨1997, 10, .on 4, 0, .wall⟩⟩,
   ⟨7200, .fixed 0, some ⟨2012, 11, .on 10, 7200, .wall⟩⟩,
   ⟨3600, .recurring libya, some ⟨2013, 10, .on 25, 7200, .wall⟩⟩,
   ⟨7200, .fixed 0, none⟩]

/-- The history of Africa/Tunis. -/
def africaTunis : List Era :=
  [⟨2444, .fixed 0, some ⟨1881, 5, .on 12, 0, .wall⟩⟩,
   ⟨561, .fixed 0, some ⟨1911, 3, .on 11, 0, .wall⟩⟩,
   ⟨3600, .recurring tunisia, none⟩]

/-- The history of Africa/Windhoek. -/
def africaWindhoek : List Era :=
  [⟨4104, .fixed 0, some ⟨1892, 2, .on 8, 0, .wall⟩⟩,
   ⟨5400, .fixed 0, some ⟨1903, 3, .on 1, 0, .wall⟩⟩,
   ⟨7200, .fixed 0, some ⟨1942, 9, .on 20, 7200, .wall⟩⟩,
   ⟨7200, .fixed 3600, some ⟨1943, 3, .on 21, 7200, .wall⟩⟩,
   ⟨7200, .fixed 0, some ⟨1990, 3, .on 21, 0, .wall⟩⟩,
   ⟨7200, .recurring namibia, none⟩]

/-- The zones of Africa by name. -/
def africaZones : List (String × List Era) :=
  [("Africa/Abidjan", africaAbidjan),
   ("Africa/Algiers", africaAlgiers),
   ("Africa/Bissau", africaBissau),
   ("Africa/Cairo", africaCairo),
   ("Africa/Casablanca", africaCasablanca),
   ("Africa/Ceuta", africaCeuta),
   ("Africa/El_Aaiun", africaElAaiun),
   ("Africa/Johannesburg", africaJohannesburg),
   ("Africa/Juba", africaJuba),
   ("Africa/Khartoum", africaKhartoum),
   ("Africa/Lagos", africaLagos),
   ("Africa/Maputo", africaMaputo),
   ("Africa/Monrovia", africaMonrovia),
   ("Africa/Nairobi", africaNairobi),
   ("Africa/Ndjamena", africaNdjamena),
   ("Africa/Sao_Tome", africaSaoTome),
   ("Africa/Tripoli", africaTripoli),
   ("Africa/Tunis", africaTunis),
   ("Africa/Windhoek", africaWindhoek)]

end Daybook.Zone.Tables
