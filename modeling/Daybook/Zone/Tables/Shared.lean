import Daybook.Zone.Era

/-!
# Rules followed on more than one continent

The recurring changes of the clock that zones of several continents refer to.  A rule without a
last year holds through the last year that is unrolled.
-/

namespace Daybook.Zone.Tables

/-- The last year in which a rule without an end is unrolled. -/
def lastYear : Int :=
  2099

/-- The rules of Argentina. -/
def argentina : List Rule :=
  [⟨1930, 1930, 12, .on 1, 0, .wall, 3600⟩,
   ⟨1931, 1931, 4, .on 1, 0, .wall, 0⟩,
   ⟨1931, 1931, 10, .on 15, 0, .wall, 3600⟩,
   ⟨1932, 1940, 3, .on 1, 0, .wall, 0⟩,
   ⟨1932, 1939, 11, .on 1, 0, .wall, 3600⟩,
   ⟨1940, 1940, 7, .on 1, 0, .wall, 3600⟩,
   ⟨1941, 1941, 6, .on 15, 0, .wall, 0⟩,
   ⟨1941, 1941, 10, .on 15, 0, .wall, 3600⟩,
   ⟨1943, 1943, 8, .on 1, 0, .wall, 0⟩,
   ⟨1943, 1943, 10, .on 15, 0, .wall, 3600⟩,
   ⟨1946, 1946, 3, .on 1, 0, .wall, 0⟩,
   ⟨1946, 1946, 10, .on 1, 0, .wall, 3600⟩,
   ⟨1963, 1963, 10, .on 1, 0, .wall, 0⟩,
   ⟨1963, 1963, 12, .on 15, 0, .wall, 3600⟩,
   ⟨1964, 1966, 3, .on 1, 0, .wall, 0⟩,
   ⟨1964, 1966, 10, .on 15, 0, .wall, 3600⟩,
   ⟨1967, 1967, 4, .on 2, 0, .wall, 0⟩,
   ⟨1967, 1968, 10, .onOrAfter .sun 1, 0, .wall, 3600⟩,
   ⟨1968, 1969, 4, .onOrAfter .sun 1, 0, .wall, 0⟩,
   ⟨1974, 1974, 1, .on 23, 0, .wall, 3600⟩,
   ⟨1974, 1974, 5, .on 1, 0, .wall, 0⟩,
   ⟨1988, 1988, 12, .on 1, 0, .wall, 3600⟩,
   ⟨1989, 1993, 3, .onOrAfter .sun 1, 0, .wall, 0⟩,
   ⟨1989, 1992, 10, .onOrAfter .sun 15, 0, .wall, 3600⟩,
   ⟨1999, 1999, 10, .onOrAfter .sun 1, 0, .wall, 3600⟩,
   ⟨2000, 2000, 3, .on 3, 0, .wall, 0⟩,
   ⟨2007, 2007, 12, .on 30, 0, .wall, 3600⟩,
   ⟨2008, 2009, 3, .onOrAfter .sun 15, 0, .wall, 0⟩,
   ⟨2008, 2008, 10, .onOrAfter .sun 15, 0, .wall, 3600⟩]

/-- The rules of Canada. -/
def canada : List Rule :=
  [⟨1918, 1918, 4, .on 14, 7200, .wall, 3600⟩,
   ⟨1918, 1918, 10, .on 27, 7200, .wall, 0⟩,
   ⟨1942, 1942, 2, .on 9, 7200, .wall, 3600⟩,
   ⟨1945, 1945, 8, .on 14, 82800, .universal, 3600⟩,
   ⟨1945, 1945, 9, .on 30, 7200, .wall, 0⟩,
   ⟨1974, 1986, 4, .last .sun, 7200, .wall, 3600⟩,
   ⟨1974, 2006, 10, .last .sun, 7200, .wall, 0⟩,
   ⟨1987, 2006, 4, .onOrAfter .sun 1, 7200, .wall, 3600⟩,
   ⟨2007, lastYear, 3, .onOrAfter .sun 8, 7200, .wall, 3600⟩,
   ⟨2007, lastYear, 11, .onOrAfter .sun 1, 7200, .wall, 0⟩]

/-- The rules of Central Europe. -/
def centralEurope : List Rule :=
  [⟨1916, 1916, 4, .on 30, 82800, .wall, 3600⟩,
   ⟨1916, 1916, 10, .on 1, 3600, .wall, 0⟩,
   ⟨1917, 1918, 4, .onOrAfter .mon 15, 7200, .standard, 3600⟩,
   ⟨1917, 1918, 9, .onOrAfter .mon 15, 7200, .standard, 0⟩,
   ⟨1940, 1940, 4, .on 1, 7200, .standard, 3600⟩,
   ⟨1942, 1942, 11, .on 2, 7200, .standard, 0⟩,
   ⟨1943, 1943, 3, .on 29, 7200, .standard, 3600⟩,
   ⟨1943, 1943, 10, .on 4, 7200, .standard, 0⟩,
   ⟨1944, 1945, 4, .onOrAfter .mon 1, 7200, .standard, 3600⟩,
   ⟨1944, 1944, 10, .on 2, 7200, .standard, 0⟩,
   ⟨1945, 1945, 9, .on 16, 7200, .standard, 0⟩,
   ⟨1977, 1980, 4, .onOrAfter .sun 1, 7200, .standard, 3600⟩,
   ⟨1977, 1977, 9, .last .sun, 7200, .standard, 0⟩,
   ⟨1978, 1978, 10, .on 1, 7200, .standard, 0⟩,
   ⟨1979, 1995, 9, .last .sun, 7200, .standard, 0⟩,
   ⟨1981, lastYear, 3, .last .sun, 7200, .standard, 3600⟩,
   ⟨1996, lastYear, 10, .last .sun, 7200, .standard, 0⟩]

/-- The rules of Chile. -/
def chile : List Rule :=
  [⟨1927, 1931, 9, .on 1, 0, .wall, 3600⟩,
   ⟨1928, 1932, 4, .on 1, 0, .wall, 0⟩,
   ⟨1968, 1968, 11, .on 3, 14400, .universal, 3600⟩,
   ⟨1969, 1969, 3, .on 30, 10800, .universal, 0⟩,
   ⟨1969, 1969, 11, .on 23, 14400, .universal, 3600⟩,
   ⟨1970, 1970, 3, .on 29, 10800, .universal, 0⟩,
   ⟨1971, 1971, 3, .on 14, 10800, .universal, 0⟩,
   ⟨1970, 1972, 10, .onOrAfter .sun 9, 14400, .universal, 3600⟩,
   ⟨1972, 1986, 3, .onOrAfter .sun 9, 10800, .universal, 0⟩,
   ⟨1973, 1973, 9, .on 30, 14400, .universal, 3600⟩,
   ⟨1974, 1987, 10, .onOrAfter .sun 9, 14400, .universal, 3600⟩,
   ⟨1987, 1987, 4, .on 12, 10800, .universal, 0⟩,
   ⟨1988, 1990, 3, .onOrAfter .sun 9, 10800, .universal, 0⟩,
   ⟨1988, 1989, 10, .onOrAfter .sun 9, 14400, .universal, 3600⟩,
   ⟨1990, 1990, 9, .on 16, 14400, .universal, 3600⟩,
   ⟨1991, 1996, 3, .onOrAfter .sun 9, 10800, .universal, 0⟩,
   ⟨1991, 1997, 10, .onOrAfter .sun 9, 14400, .universal, 3600⟩,
   ⟨1997, 1997, 3, .on 30, 10800, .universal, 0⟩,
   ⟨1998, 1998, 3, .onOrAfter .sun 9, 10800, .universal, 0⟩,
   ⟨1998, 1998, 9, .on 27, 14400, .universal, 3600⟩,
   ⟨1999, 1999, 4, .on 4, 10800, .universal, 0⟩,
   ⟨1999, 2010, 10, .onOrAfter .sun 9, 14400, .universal, 3600⟩,
   ⟨2000, 2007, 3, .onOrAfter .sun 9, 10800, .universal, 0⟩,
   ⟨2008, 2008, 3, .on 30, 10800, .universal, 0⟩,
   ⟨2009, 2009, 3, .onOrAfter .sun 9, 10800, .universal, 0⟩,
   ⟨2010, 2010, 4, .onOrAfter .sun 1, 10800, .universal, 0⟩,
   ⟨2011, 2011, 5, .onOrAfter .sun 2, 10800, .universal, 0⟩,
   ⟨2011, 2011, 8, .onOrAfter .sun 16, 14400, .universal, 3600⟩,
   ⟨2012, 2014, 4, .onOrAfter .sun 23, 10800, .universal, 0⟩,
   ⟨2012, 2014, 9, .onOrAfter .sun 2, 14400, .universal, 3600⟩,
   ⟨2016, 2018, 5, .onOrAfter .sun 9, 10800, .universal, 0⟩,
   ⟨2016, 2018, 8, .onOrAfter .sun 9, 14400, .universal, 3600⟩,
   ⟨2019, lastYear, 4, .onOrAfter .sun 2, 10800, .universal, 0⟩,
   ⟨2019, 2021, 9, .onOrAfter .sun 2, 14400, .universal, 3600⟩,
   ⟨2022, 2022, 9, .onOrAfter .sun 9, 14400, .universal, 3600⟩,
   ⟨2023, lastYear, 9, .onOrAfter .sun 2, 14400, .universal, 3600⟩]

/-- The rules of Eastern Europe. -/
def easternEurope : List Rule :=
  [⟨1977, 1980, 4, .onOrAfter .sun 1, 0, .wall, 3600⟩,
   ⟨1977, 1977, 9, .last .sun, 0, .wall, 0⟩,
   ⟨1978, 1978, 10, .on 1, 0, .wall, 0⟩,
   ⟨1979, 1995, 9, .last .sun, 0, .wall, 0⟩,
   ⟨1981, lastYear, 3, .last .sun, 0, .wall, 3600⟩,
   ⟨1996, lastYear, 10, .last .sun, 0, .wall, 0⟩]

/-- The rules of Ecuador. -/
def ecuador : List Rule :=
  [⟨1992, 1992, 11, .on 28, 0, .wall, 3600⟩,
   ⟨1993, 1993, 2, .on 5, 0, .wall, 0⟩]

/-- The rules of Egypt. -/
def egypt : List Rule :=
  [⟨1940, 1940, 7, .on 15, 0, .wall, 3600⟩,
   ⟨1940, 1940, 10, .on 1, 0, .wall, 0⟩,
   ⟨1941, 1941, 4, .on 15, 0, .wall, 3600⟩,
   ⟨1941, 1941, 9, .on 16, 0, .wall, 0⟩,
   ⟨1942, 1944, 4, .on 1, 0, .wall, 3600⟩,
   ⟨1942, 1942, 10, .on 27, 0, .wall, 0⟩,
   ⟨1943, 1945, 11, .on 1, 0, .wall, 0⟩,
   ⟨1945, 1945, 4, .on 16, 0, .wall, 3600⟩,
   ⟨1957, 1957, 5, .on 10, 0, .wall, 3600⟩,
   ⟨1957, 1958, 10, .on 1, 0, .wall, 0⟩,
   ⟨1958, 1958, 5, .on 1, 0, .wall, 3600⟩,
   ⟨1959, 1981, 5, .on 1, 3600, .wall, 3600⟩,
   ⟨1959, 1965, 9, .on 30, 10800, .wall, 0⟩,
   ⟨1966, 1994, 10, .on 1, 10800, .wall, 0⟩,
   ⟨1982, 1982, 7, .on 25, 3600, .wall, 3600⟩,
   ⟨1983, 1983, 7, .on 12, 3600, .wall, 3600⟩,
   ⟨1984, 1988, 5, .on 1, 3600, .wall, 3600⟩,
   ⟨1989, 1989, 5, .on 6, 3600, .wall, 3600⟩,
   ⟨1990, 1994, 5, .on 1, 3600, .wall, 3600⟩,
   ⟨1995, 2010, 4, .last .fri, 0, .standard, 3600⟩,
   ⟨1995, 2005, 9, .last .thu, 86400, .wall, 0⟩,
   ⟨2006, 2006, 9, .on 21, 86400, .wall, 0⟩,
   ⟨2007, 2007, 9, .onOrAfter .thu 1, 86400, .wall, 0⟩,
   ⟨2008, 2008, 8, .last .thu, 86400, .wall, 0⟩,
   ⟨2009, 2009, 8, .on 20, 86400, .wall, 0⟩,
   ⟨2010, 2010, 8, .on 10, 86400, .wall, 0⟩,
   ⟨2010, 2010, 9, .on 9, 86400, .wall, 3600⟩,
   ⟨2010, 2010, 9, .last .thu, 86400, .wall, 0⟩,
   ⟨2014, 2014, 5, .on 15, 86400, .wall, 3600⟩,
   ⟨2014, 2014, 6, .on 26, 86400, .wall, 0⟩,
   ⟨2014, 2014, 7, .on 31, 86400, .wall, 3600⟩,
   ⟨2014, 2014, 9, .last .thu, 86400, .wall, 0⟩,
   ⟨2023, lastYear, 4, .last .fri, 0, .wall, 3600⟩,
   ⟨2023, lastYear, 10, .last .thu, 86400, .wall, 0⟩]

/-- The rules of European Union. -/
def europeanUnion : List Rule :=
  [⟨1977, 1980, 4, .onOrAfter .sun 1, 3600, .universal, 3600⟩,
   ⟨1977, 1977, 9, .last .sun, 3600, .universal, 0⟩,
   ⟨1978, 1978, 10, .on 1, 3600, .universal, 0⟩,
   ⟨1979, 1995, 9, .last .sun, 3600, .universal, 0⟩,
   ⟨1981, lastYear, 3, .last .sun, 3600, .universal, 3600⟩,
   ⟨1996, lastYear, 10, .last .sun, 3600, .universal, 0⟩]

/-- The rules of New South Wales. -/
def newSouthWales : List Rule :=
  [⟨1971, 1985, 10, .last .sun, 7200, .standard, 3600⟩,
   ⟨1972, 1972, 2, .on 27, 7200, .standard, 0⟩,
   ⟨1973, 1981, 3, .onOrAfter .sun 1, 7200, .standard, 0⟩,
   ⟨1982, 1982, 4, .onOrAfter .sun 1, 7200, .standard, 0⟩,
   ⟨1983, 1985, 3, .onOrAfter .sun 1, 7200, .standard, 0⟩,
   ⟨1986, 1989, 3, .onOrAfter .sun 15, 7200, .standard, 0⟩,
   ⟨1986, 1986, 10, .on 19, 7200, .standard, 3600⟩,
   ⟨1987, 1999, 10, .last .sun, 7200, .standard, 3600⟩,
   ⟨1990, 1995, 3, .onOrAfter .sun 1, 7200, .standard, 0⟩,
   ⟨1996, 2005, 3, .last .sun, 7200, .standard, 0⟩,
   ⟨2000, 2000, 8, .last .sun, 7200, .standard, 3600⟩,
   ⟨2001, 2007, 10, .last .sun, 7200, .standard, 3600⟩,
   ⟨2006, 2006, 4, .onOrAfter .sun 1, 7200, .standard, 0⟩,
   ⟨2007, 2007, 3, .last .sun, 7200, .standard, 0⟩,
   ⟨2008, lastYear, 4, .onOrAfter .sun 1, 7200, .standard, 0⟩,
   ⟨2008, lastYear, 10, .onOrAfter .sun 1, 7200, .standard, 3600⟩]

/-- The rules of Portugal. -/
def portugal : List Rule :=
  [⟨1916, 1916, 6, .on 17, 82800, .wall, 3600⟩,
   ⟨1916, 1916, 11, .on 1, 3600, .wall, 0⟩,
   ⟨1917, 1921, 3, .on 1, 0, .wall, 3600⟩,
   ⟨1917, 1921, 10, .on 14, 86400, .wall, 0⟩,
   ⟨1924, 1924, 4, .on 16, 82800, .standard, 3600⟩,
   ⟨1924, 1924, 10, .on 4, 82800, .standard, 0⟩,
   ⟨1926, 1926, 4, .on 17, 82800, .standard, 3600⟩,
   ⟨1926, 1929, 10, .onOrAfter .sat 1, 82800, .standard, 0⟩,
   ⟨1927, 1927, 4, .on 9, 82800, .standard, 3600⟩,
   ⟨1928, 1928, 4, .on 14, 82800, .standard, 3600⟩,
   ⟨1929, 1929, 4, .on 20, 82800, .standard, 3600⟩,
   ⟨1931, 1931, 4, .on 18, 82800, .standard, 3600⟩,
   ⟨1931, 1932, 10, .onOrAfter .sat 1, 82800, .standard, 0⟩,
   ⟨1932, 1932, 4, .on 2, 82800, .standard, 3600⟩,
   ⟨1934, 1934, 4, .on 7, 82800, .standard, 3600⟩,
   ⟨1934, 1938, 10, .onOrAfter .sat 1, 82800, .standard, 0⟩,
   ⟨1935, 1935, 3, .on 30, 82800, .standard, 3600⟩,
   ⟨1936, 1936, 4, .on 18, 82800, .standard, 3600⟩,
   ⟨1937, 1937, 4, .on 3, 82800, .standard, 3600⟩,
   ⟨1938, 1938, 3, .on 26, 82800, .standard, 3600⟩,
   ⟨1939, 1939, 4, .on 15, 82800, .standard, 3600⟩,
   ⟨1939, 1939, 11, .on 18, 82800, .standard, 0⟩,
   ⟨1940, 1940, 2, .on 24, 82800, .standard, 3600⟩,
   ⟨1940, 1940, 10, .on 7, 82800, .standard, 0⟩,
   ⟨1941, 1941, 4, .on 5, 82800, .standard, 3600⟩,
   ⟨1941, 1941, 10, .on 5, 82800, .standard, 0⟩,
   ⟨1942, 1945, 3, .onOrAfter .sat 8, 82800, .standard, 3600⟩,
   ⟨1942, 1942, 4, .on 25, 79200, .standard, 7200⟩,
   ⟨1942, 1942, 8, .on 15, 79200, .standard, 3600⟩,
   ⟨1942, 1945, 10, .onOrAfter .sat 24, 82800, .standard, 0⟩,
   ⟨1943, 1943, 4, .on 17, 79200, .standard, 7200⟩,
   ⟨1943, 1945, 8, .onOrAfter .sat 25, 79200, .standard, 3600⟩,
   ⟨1944, 1945, 4, .onOrAfter .sat 21, 79200, .standard, 7200⟩,
   ⟨1946, 1946, 4, .onOrAfter .sat 1, 82800, .standard, 3600⟩,
   ⟨1946, 1946, 10, .onOrAfter .sat 1, 82800, .standard, 0⟩,
   ⟨1947, 1966, 4, .onOrAfter .sun 1, 7200, .standard, 3600⟩,
   ⟨1947, 1965, 10, .onOrAfter .sun 1, 7200, .standard, 0⟩,
   ⟨1976, 1976, 9, .last .sun, 3600, .wall, 0⟩,
   ⟨1977, 1977, 3, .last .sun, 0, .standard, 3600⟩,
   ⟨1977, 1977, 9, .last .sun, 0, .standard, 0⟩,
   ⟨1978, 1980, 4, .onOrAfter .sun 1, 3600, .standard, 3600⟩,
   ⟨1978, 1978, 10, .on 1, 3600, .standard, 0⟩,
   ⟨1979, 1980, 9, .last .sun, 3600, .standard, 0⟩,
   ⟨1981, 1986, 3, .last .sun, 0, .standard, 3600⟩,
   ⟨1981, 1985, 9, .last .sun, 0, .standard, 0⟩]

/-- The rules of Russia. -/
def russia : List Rule :=
  [⟨1917, 1917, 7, .on 1, 82800, .wall, 3600⟩,
   ⟨1917, 1917, 12, .on 28, 0, .wall, 0⟩,
   ⟨1918, 1918, 5, .on 31, 79200, .wall, 7200⟩,
   ⟨1918, 1918, 9, .on 16, 3600, .wall, 3600⟩,
   ⟨1919, 1919, 5, .on 31, 82800, .wall, 7200⟩,
   ⟨1919, 1919, 7, .on 1, 0, .universal, 3600⟩,
   ⟨1919, 1919, 8, .on 16, 0, .wall, 0⟩,
   ⟨1921, 1921, 2, .on 14, 82800, .wall, 3600⟩,
   ⟨1921, 1921, 3, .on 20, 82800, .wall, 7200⟩,
   ⟨1921, 1921, 9, .on 1, 0, .wall, 3600⟩,
   ⟨1921, 1921, 10, .on 1, 0, .wall, 0⟩,
   ⟨1981, 1984, 4, .on 1, 0, .wall, 3600⟩,
   ⟨1981, 1983, 10, .on 1, 0, .wall, 0⟩,
   ⟨1984, 1995, 9, .last .sun, 7200, .standard, 0⟩,
   ⟨1985, 2010, 3, .last .sun, 7200, .standard, 3600⟩,
   ⟨1996, 2010, 10, .last .sun, 7200, .standard, 0⟩]

/-- The rules of Spain. -/
def spain : List Rule :=
  [⟨1918, 1918, 4, .on 15, 82800, .wall, 3600⟩,
   ⟨1918, 1919, 10, .on 6, 86400, .standard, 0⟩,
   ⟨1919, 1919, 4, .on 6, 82800, .wall, 3600⟩,
   ⟨1924, 1924, 4, .on 16, 82800, .wall, 3600⟩,
   ⟨1924, 1924, 10, .on 4, 86400, .standard, 0⟩,
   ⟨1926, 1926, 4, .on 17, 82800, .wall, 3600⟩,
   ⟨1926, 1929, 10, .onOrAfter .sat 1, 86400, .standard, 0⟩,
   ⟨1927, 1927, 4, .on 9, 82800, .wall, 3600⟩,
   ⟨1928, 1928, 4, .on 15, 0, .wall, 3600⟩,
   ⟨1929, 1929, 4, .on 20, 82800, .wall, 3600⟩,
   ⟨1937, 1937, 6, .on 16, 82800, .wall, 3600⟩,
   ⟨1937, 1937, 10, .on 2, 86400, .standard, 0⟩,
   ⟨1938, 1938, 4, .on 2, 82800, .wall, 3600⟩,
   ⟨1938, 1938, 4, .on 30, 82800, .wall, 7200⟩,
   ⟨1938, 1938, 10, .on 2, 86400, .wall, 3600⟩,
   ⟨1939, 1939, 10, .on 7, 86400, .standard, 0⟩,
   ⟨1942, 1942, 5, .on 2, 82800, .wall, 3600⟩,
   ⟨1942, 1942, 9, .on 1, 3600, .wall, 0⟩,
   ⟨1943, 1946, 4, .onOrAfter .sat 13, 82800, .wall, 3600⟩,
   ⟨1943, 1944, 10, .onOrAfter .sun 1, 3600, .wall, 0⟩,
   ⟨1945, 1946, 9, .last .sun, 3600, .wall, 0⟩,
   ⟨1949, 1949, 4, .on 30, 82800, .wall, 3600⟩,
   ⟨1949, 1949, 10, .on 2, 3600, .wall, 0⟩,
   ⟨1974, 1975, 4, .onOrAfter .sat 12, 82800, .wall, 3600⟩,
   ⟨1974, 1975, 10, .onOrAfter .sun 1, 3600, .wall, 0⟩,
   ⟨1976, 1976, 3, .on 27, 82800, .wall, 3600⟩,
   ⟨1976, 1977, 9, .last .sun, 3600, .wall, 0⟩,
   ⟨1977, 1977, 4, .on 2, 82800, .wall, 3600⟩,
   ⟨1978, 1978, 4, .on 2, 7200, .standard, 3600⟩,
   ⟨1978, 1978, 10, .on 1, 7200, .standard, 0⟩]

/-- The rules of United States. -/
def unitedStates : List Rule :=
  [⟨1918, 1919, 3, .last .sun, 7200, .wall, 3600⟩,
   ⟨1918, 1919, 10, .last .sun, 7200, .wall, 0⟩,
   ⟨1942, 1942, 2, .on 9, 7200, .wall, 3600⟩,
   ⟨1945, 1945, 8, .on 14, 82800, .universal, 3600⟩,
   ⟨1945, 1945, 9, .on 30, 7200, .wall, 0⟩,
   ⟨1967, 2006, 10, .last .sun, 7200, .wall, 0⟩,
   ⟨1967, 1973, 4, .last .sun, 7200, .wall, 3600⟩,
   ⟨1974, 1974, 1, .on 6, 7200, .wall, 3600⟩,
   ⟨1975, 1975, 2, .last .sun, 7200, .wall, 3600⟩,
   ⟨1976, 1986, 4, .last .sun, 7200, .wall, 3600⟩,
   ⟨1987, 2006, 4, .onOrAfter .sun 1, 7200, .wall, 3600⟩,
   ⟨2007, lastYear, 3, .onOrAfter .sun 8, 7200, .wall, 3600⟩,
   ⟨2007, lastYear, 11, .onOrAfter .sun 1, 7200, .wall, 0⟩]

end Daybook.Zone.Tables
