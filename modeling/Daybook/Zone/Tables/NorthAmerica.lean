import Daybook.Zone.Tables.Shared

/-!
# The clocks of North and Central America

The recurring rules and the histories of the zones of this area, and the list of its zones by name.
-/

namespace Daybook.Zone.Tables

/-! ### Rules -/

/-- The rules of Barbados. -/
def barbados : List Rule :=
  [⟨1942, 1942, 4, .on 19, 18000, .universal, 3600⟩,
   ⟨1942, 1942, 8, .on 31, 21600, .universal, 0⟩,
   ⟨1943, 1943, 5, .on 2, 18000, .universal, 3600⟩,
   ⟨1943, 1943, 9, .on 5, 21600, .universal, 0⟩,
   ⟨1944, 1944, 4, .on 10, 18000, .universal, 1800⟩,
   ⟨1944, 1944, 9, .on 10, 21600, .universal, 0⟩,
   ⟨1977, 1977, 6, .on 12, 7200, .wall, 3600⟩,
   ⟨1977, 1978, 10, .onOrAfter .sun 1, 7200, .wall, 0⟩,
   ⟨1978, 1980, 4, .onOrAfter .sun 15, 7200, .wall, 3600⟩,
   ⟨1979, 1979, 9, .on 30, 7200, .wall, 0⟩,
   ⟨1980, 1980, 9, .on 25, 7200, .wall, 0⟩]

/-- The rules of Belize. -/
def belize : List Rule :=
  [⟨1918, 1941, 10, .onOrAfter .sat 1, 86400, .wall, 1800⟩,
   ⟨1919, 1942, 2, .onOrAfter .sat 8, 86400, .wall, 0⟩,
   ⟨1942, 1942, 6, .on 27, 86400, .wall, 3600⟩,
   ⟨1945, 1945, 8, .on 14, 82800, .universal, 3600⟩,
   ⟨1945, 1945, 12, .on 15, 86400, .wall, 0⟩,
   ⟨1947, 1967, 10, .onOrAfter .sat 1, 86400, .wall, 1800⟩,
   ⟨1948, 1968, 2, .onOrAfter .sat 8, 86400, .wall, 0⟩,
   ⟨1973, 1973, 12, .on 5, 0, .wall, 3600⟩,
   ⟨1974, 1974, 2, .on 9, 0, .wall, 0⟩,
   ⟨1982, 1982, 12, .on 18, 0, .wall, 3600⟩,
   ⟨1983, 1983, 2, .on 12, 0, .wall, 0⟩]

/-- The rules of California. -/
def california : List Rule :=
  [⟨1948, 1948, 3, .on 14, 7260, .wall, 3600⟩,
   ⟨1949, 1949, 1, .on 1, 7200, .wall, 0⟩,
   ⟨1950, 1966, 4, .last .sun, 3600, .wall, 3600⟩,
   ⟨1950, 1961, 9, .last .sun, 7200, .wall, 0⟩,
   ⟨1962, 1966, 10, .last .sun, 7200, .wall, 0⟩]

/-- The rules of Chicago. -/
def chicago : List Rule :=
  [⟨1920, 1920, 6, .on 13, 7200, .wall, 3600⟩,
   ⟨1920, 1921, 10, .last .sun, 7200, .wall, 0⟩,
   ⟨1921, 1921, 3, .last .sun, 7200, .wall, 3600⟩,
   ⟨1922, 1966, 4, .last .sun, 7200, .wall, 3600⟩,
   ⟨1922, 1954, 9, .last .sun, 7200, .wall, 0⟩,
   ⟨1955, 1966, 10, .last .sun, 7200, .wall, 0⟩]

/-- The rules of Costa Rica. -/
def costaRica : List Rule :=
  [⟨1979, 1980, 2, .last .sun, 0, .wall, 3600⟩,
   ⟨1979, 1980, 6, .onOrAfter .sun 1, 0, .wall, 0⟩,
   ⟨1991, 1992, 1, .onOrAfter .sat 15, 0, .wall, 3600⟩,
   ⟨1991, 1991, 7, .on 1, 0, .wall, 0⟩,
   ⟨1992, 1992, 3, .on 15, 0, .wall, 0⟩]

/-- The rules of Cuba. -/
def cuba : List Rule :=
  [⟨1928, 1928, 6, .on 10, 0, .wall, 3600⟩,
   ⟨1928, 1928, 10, .on 10, 0, .wall, 0⟩,
   ⟨1940, 1942, 6, .onOrAfter .sun 1, 0, .wall, 3600⟩,
   ⟨1940, 1942, 9, .onOrAfter .sun 1, 0, .wall, 0⟩,
   ⟨1945, 1946, 6, .onOrAfter .sun 1, 0, .wall, 3600⟩,
   ⟨1945, 1946, 9, .onOrAfter .sun 1, 0, .wall, 0⟩,
   ⟨1965, 1965, 6, .on 1, 0, .wall, 3600⟩,
   ⟨1965, 1965, 9, .on 30, 0, .wall, 0⟩,
   ⟨1966, 1966, 5, .on 29, 0, .wall, 3600⟩,
   ⟨1966, 1966, 10, .on 2, 0, .wall, 0⟩,
   ⟨1967, 1967, 4, .on 8, 0, .wall, 3600⟩,
   ⟨1967, 1968, 9, .onOrAfter .sun 8, 0, .wall, 0⟩,
   ⟨1968, 1968, 4, .on 14, 0, .wall, 3600⟩,
   ⟨1969, 1977, 4, .last .sun, 0, .wall, 3600⟩,
   ⟨1969, 1971, 10, .last .sun, 0, .wall, 0⟩,
   ⟨1972, 1974, 10, .on 8, 0, .wall, 0⟩,
   ⟨1975, 1977, 10, .last .sun, 0, .wall, 0⟩,
   ⟨1978, 1978, 5, .on 7, 0, .wall, 3600⟩,
   ⟨1978, 1990, 10, .onOrAfter .sun 8, 0, .wall, 0⟩,
   ⟨1979, 1980, 3, .onOrAfter .sun 15, 0, .wall, 3600⟩,
   ⟨1981, 1985, 5, .onOrAfter .sun 5, 0, .wall, 3600⟩,
   ⟨1986, 1989, 3, .onOrAfter .sun 14, 0, .wall, 3600⟩,
   ⟨1990, 1997, 4, .onOrAfter .sun 1, 0, .wall, 3600⟩,
   ⟨1991, 1995, 10, .onOrAfter .sun 8, 0, .standard, 0⟩,
   ⟨1996, 1996, 10, .on 6, 0, .standard, 0⟩,
   ⟨1997, 1997, 10, .on 12, 0, .standard, 0⟩,
   ⟨1998, 1999, 3, .last .sun, 0, .standard, 3600⟩,
   ⟨1998, 2003, 10, .last .sun, 0, .standard, 0⟩,
   ⟨2000, 2003, 4, .onOrAfter .sun 1, 0, .standard, 3600⟩,
   ⟨2004, 2004, 3, .last .sun, 0, .standard, 3600⟩,
   ⟨2006, 2010, 10, .last .sun, 0, .standard, 0⟩,
   ⟨2007, 2007, 3, .onOrAfter .sun 8, 0, .standard, 3600⟩,
   ⟨2008, 2008, 3, .onOrAfter .sun 15, 0, .standard, 3600⟩,
   ⟨2009, 2010, 3, .onOrAfter .sun 8, 0, .standard, 3600⟩,
   ⟨2011, 2011, 3, .onOrAfter .sun 15, 0, .standard, 3600⟩,
   ⟨2011, 2011, 11, .on 13, 0, .standard, 0⟩,
   ⟨2012, 2012, 4, .on 1, 0, .standard, 3600⟩,
   ⟨2012, lastYear, 11, .onOrAfter .sun 1, 0, .standard, 0⟩,
   ⟨2013, lastYear, 3, .onOrAfter .sun 8, 0, .standard, 3600⟩]

/-- The rules of Denver. -/
def denver : List Rule :=
  [⟨1920, 1921, 3, .last .sun, 7200, .wall, 3600⟩,
   ⟨1920, 1920, 10, .last .sun, 7200, .wall, 0⟩,
   ⟨1921, 1921, 5, .on 22, 7200, .wall, 0⟩,
   ⟨1965, 1966, 4, .last .sun, 7200, .wall, 3600⟩,
   ⟨1965, 1966, 10, .last .sun, 7200, .wall, 0⟩]

/-- The rules of Detroit. -/
def detroit : List Rule :=
  [⟨1948, 1948, 4, .last .sun, 7200, .wall, 3600⟩,
   ⟨1948, 1948, 9, .last .sun, 7200, .wall, 0⟩]

/-- The rules of Dominican Republic. -/
def dominicanRepublic : List Rule :=
  [⟨1966, 1966, 10, .on 30, 0, .wall, 3600⟩,
   ⟨1967, 1967, 2, .on 28, 0, .wall, 0⟩,
   ⟨1969, 1973, 10, .last .sun, 0, .wall, 1800⟩,
   ⟨1970, 1970, 2, .on 21, 0, .wall, 0⟩,
   ⟨1971, 1971, 1, .on 20, 0, .wall, 0⟩,
   ⟨1972, 1974, 1, .on 21, 0, .wall, 0⟩]

/-- The rules of Edmonton. -/
def edmonton : List Rule :=
  [⟨1918, 1919, 4, .onOrAfter .sun 8, 7200, .wall, 3600⟩,
   ⟨1918, 1918, 10, .on 27, 7200, .wall, 0⟩,
   ⟨1919, 1919, 5, .on 27, 7200, .wall, 0⟩,
   ⟨1920, 1923, 4, .last .sun, 7200, .wall, 3600⟩,
   ⟨1920, 1920, 10, .last .sun, 7200, .wall, 0⟩,
   ⟨1921, 1923, 9, .last .sun, 7200, .wall, 0⟩,
   ⟨1942, 1942, 2, .on 9, 7200, .wall, 3600⟩,
   ⟨1945, 1945, 8, .on 14, 82800, .universal, 3600⟩,
   ⟨1945, 1945, 9, .last .sun, 7200, .wall, 0⟩,
   ⟨1947, 1947, 4, .last .sun, 7200, .wall, 3600⟩,
   ⟨1947, 1947, 9, .last .sun, 7200, .wall, 0⟩,
   ⟨1972, 1986, 4, .last .sun, 7200, .wall, 3600⟩,
   ⟨1972, 2006, 10, .last .sun, 7200, .wall, 0⟩]

/-- The rules of El Salvador. -/
def elSalvador : List Rule :=
  [⟨1987, 1988, 5, .onOrAfter .sun 1, 0, .wall, 3600⟩,
   ⟨1987, 1988, 9, .last .sun, 0, .wall, 0⟩]

/-- The rules of Guatemala. -/
def guatemala : List Rule :=
  [⟨1973, 1973, 11, .on 25, 0, .wall, 3600⟩,
   ⟨1974, 1974, 2, .on 24, 0, .wall, 0⟩,
   ⟨1983, 1983, 5, .on 21, 0, .wall, 3600⟩,
   ⟨1983, 1983, 9, .on 22, 0, .wall, 0⟩,
   ⟨1991, 1991, 3, .on 23, 0, .wall, 3600⟩,
   ⟨1991, 1991, 9, .on 7, 0, .wall, 0⟩,
   ⟨2006, 2006, 4, .on 30, 0, .wall, 3600⟩,
   ⟨2006, 2006, 10, .on 1, 0, .wall, 0⟩]

/-- The rules of Haiti. -/
def haiti : List Rule :=
  [⟨1983, 1983, 5, .on 8, 0, .wall, 3600⟩,
   ⟨1984, 1987, 4, .last .sun, 0, .wall, 3600⟩,
   ⟨1983, 1987, 10, .last .sun, 0, .wall, 0⟩,
   ⟨1988, 1997, 4, .onOrAfter .sun 1, 3600, .standard, 3600⟩,
   ⟨1988, 1997, 10, .last .sun, 3600, .standard, 0⟩,
   ⟨2005, 2006, 4, .onOrAfter .sun 1, 0, .wall, 3600⟩,
   ⟨2005, 2006, 10, .last .sun, 0, .wall, 0⟩,
   ⟨2012, 2015, 3, .onOrAfter .sun 8, 7200, .wall, 3600⟩,
   ⟨2012, 2015, 11, .onOrAfter .sun 1, 7200, .wall, 0⟩,
   ⟨2017, lastYear, 3, .onOrAfter .sun 8, 7200, .wall, 3600⟩,
   ⟨2017, lastYear, 11, .onOrAfter .sun 1, 7200, .wall, 0⟩]

/-- The rules of Halifax. -/
def halifax : List Rule :=
  [⟨1916, 1916, 4, .on 1, 0, .wall, 3600⟩,
   ⟨1916, 1916, 10, .on 1, 0, .wall, 0⟩,
   ⟨1920, 1920, 5, .on 9, 0, .wall, 3600⟩,
   ⟨1920, 1920, 8, .on 29, 0, .wall, 0⟩,
   ⟨1921, 1921, 5, .on 6, 0, .wall, 3600⟩,
   ⟨1921, 1922, 9, .on 5, 0, .wall, 0⟩,
   ⟨1922, 1922, 4, .on 30, 0, .wall, 3600⟩,
   ⟨1923, 1925, 5, .onOrAfter .sun 1, 0, .wall, 3600⟩,
   ⟨1923, 1923, 9, .on 4, 0, .wall, 0⟩,
   ⟨1924, 1924, 9, .on 15, 0, .wall, 0⟩,
   ⟨1925, 1925, 9, .on 28, 0, .wall, 0⟩,
   ⟨1926, 1926, 5, .on 16, 0, .wall, 3600⟩,
   ⟨1926, 1926, 9, .on 13, 0, .wall, 0⟩,
   ⟨1927, 1927, 5, .on 1, 0, .wall, 3600⟩,
   ⟨1927, 1927, 9, .on 26, 0, .wall, 0⟩,
   ⟨1928, 1931, 5, .onOrAfter .sun 8, 0, .wall, 3600⟩,
   ⟨1928, 1928, 9, .on 9, 0, .wall, 0⟩,
   ⟨1929, 1929, 9, .on 3, 0, .wall, 0⟩,
   ⟨1930, 1930, 9, .on 15, 0, .wall, 0⟩,
   ⟨1931, 1932, 9, .onOrAfter .mon 24, 0, .wall, 0⟩,
   ⟨1932, 1932, 5, .on 1, 0, .wall, 3600⟩,
   ⟨1933, 1933, 4, .on 30, 0, .wall, 3600⟩,
   ⟨1933, 1933, 10, .on 2, 0, .wall, 0⟩,
   ⟨1934, 1934, 5, .on 20, 0, .wall, 3600⟩,
   ⟨1934, 1934, 9, .on 16, 0, .wall, 0⟩,
   ⟨1935, 1935, 6, .on 2, 0, .wall, 3600⟩,
   ⟨1935, 1935, 9, .on 30, 0, .wall, 0⟩,
   ⟨1936, 1936, 6, .on 1, 0, .wall, 3600⟩,
   ⟨1936, 1936, 9, .on 14, 0, .wall, 0⟩,
   ⟨1937, 1938, 5, .onOrAfter .sun 1, 0, .wall, 3600⟩,
   ⟨1937, 1941, 9, .onOrAfter .mon 24, 0, .wall, 0⟩,
   ⟨1939, 1939, 5, .on 28, 0, .wall, 3600⟩,
   ⟨1940, 1941, 5, .onOrAfter .sun 1, 0, .wall, 3600⟩,
   ⟨1946, 1949, 4, .last .sun, 7200, .wall, 3600⟩,
   ⟨1946, 1949, 9, .last .sun, 7200, .wall, 0⟩,
   ⟨1951, 1954, 4, .last .sun, 7200, .wall, 3600⟩,
   ⟨1951, 1954, 9, .last .sun, 7200, .wall, 0⟩,
   ⟨1956, 1959, 4, .last .sun, 7200, .wall, 3600⟩,
   ⟨1956, 1959, 9, .last .sun, 7200, .wall, 0⟩,
   ⟨1962, 1973, 4, .last .sun, 7200, .wall, 3600⟩,
   ⟨1962, 1973, 10, .last .sun, 7200, .wall, 0⟩]

/-- The rules of Honduras. -/
def honduras : List Rule :=
  [⟨1987, 1988, 5, .onOrAfter .sun 1, 0, .wall, 3600⟩,
   ⟨1987, 1988, 9, .last .sun, 0, .wall, 0⟩,
   ⟨2006, 2006, 5, .onOrAfter .sun 1, 0, .wall, 3600⟩,
   ⟨2006, 2006, 8, .onOrAfter .mon 1, 0, .wall, 0⟩]

/-- The rules of Indianapolis. -/
def indianapolis : List Rule :=
  [⟨1941, 1941, 6, .on 22, 7200, .wall, 3600⟩,
   ⟨1941, 1954, 9, .last .sun, 7200, .wall, 0⟩,
   ⟨1946, 1954, 4, .last .sun, 7200, .wall, 3600⟩]

/-- The rules of Louisville. -/
def louisville : List Rule :=
  [⟨1921, 1921, 5, .on 1, 7200, .wall, 3600⟩,
   ⟨1921, 1921, 9, .on 1, 7200, .wall, 0⟩,
   ⟨1941, 1941, 4, .last .sun, 7200, .wall, 3600⟩,
   ⟨1941, 1941, 9, .last .sun, 7200, .wall, 0⟩,
   ⟨1946, 1946, 4, .last .sun, 60, .wall, 3600⟩,
   ⟨1946, 1946, 6, .on 2, 7200, .wall, 0⟩,
   ⟨1950, 1961, 4, .last .sun, 7200, .wall, 3600⟩,
   ⟨1950, 1955, 9, .last .sun, 7200, .wall, 0⟩,
   ⟨1956, 1961, 10, .last .sun, 7200, .wall, 0⟩]

/-- The rules of Marengo. -/
def marengo : List Rule :=
  [⟨1951, 1951, 4, .last .sun, 7200, .wall, 3600⟩,
   ⟨1951, 1951, 9, .last .sun, 7200, .wall, 0⟩,
   ⟨1954, 1960, 4, .last .sun, 7200, .wall, 3600⟩,
   ⟨1954, 1960, 9, .last .sun, 7200, .wall, 0⟩]

/-- The rules of Menominee. -/
def menominee : List Rule :=
  [⟨1946, 1946, 4, .last .sun, 7200, .wall, 3600⟩,
   ⟨1946, 1946, 9, .last .sun, 7200, .wall, 0⟩,
   ⟨1966, 1966, 4, .last .sun, 7200, .wall, 3600⟩,
   ⟨1966, 1966, 10, .last .sun, 7200, .wall, 0⟩]

/-- The rules of Mexico. -/
def mexico : List Rule :=
  [⟨1931, 1931, 4, .on 30, 0, .wall, 3600⟩,
   ⟨1931, 1931, 10, .on 1, 0, .wall, 0⟩,
   ⟨1939, 1939, 2, .on 5, 0, .wall, 3600⟩,
   ⟨1939, 1939, 6, .on 25, 0, .wall, 0⟩,
   ⟨1940, 1940, 12, .on 9, 0, .wall, 3600⟩,
   ⟨1941, 1941, 4, .on 1, 0, .wall, 0⟩,
   ⟨1943, 1943, 12, .on 16, 0, .wall, 3600⟩,
   ⟨1944, 1944, 5, .on 1, 0, .wall, 0⟩,
   ⟨1950, 1950, 2, .on 12, 0, .wall, 3600⟩,
   ⟨1950, 1950, 7, .on 30, 0, .wall, 0⟩,
   ⟨1996, 2000, 4, .onOrAfter .sun 1, 7200, .wall, 3600⟩,
   ⟨1996, 2000, 10, .last .sun, 7200, .wall, 0⟩,
   ⟨2001, 2001, 5, .onOrAfter .sun 1, 7200, .wall, 3600⟩,
   ⟨2001, 2001, 9, .last .sun, 7200, .wall, 0⟩,
   ⟨2002, 2022, 4, .onOrAfter .sun 1, 7200, .wall, 3600⟩,
   ⟨2002, 2022, 10, .last .sun, 7200, .wall, 0⟩]

/-- The rules of Moncton. -/
def moncton : List Rule :=
  [⟨1933, 1935, 6, .onOrAfter .sun 8, 3600, .wall, 3600⟩,
   ⟨1933, 1935, 9, .onOrAfter .sun 8, 3600, .wall, 0⟩,
   ⟨1936, 1938, 6, .onOrAfter .sun 1, 3600, .wall, 3600⟩,
   ⟨1936, 1938, 9, .onOrAfter .sun 1, 3600, .wall, 0⟩,
   ⟨1939, 1939, 5, .on 27, 3600, .wall, 3600⟩,
   ⟨1939, 1941, 9, .onOrAfter .sat 21, 3600, .wall, 0⟩,
   ⟨1940, 1940, 5, .on 19, 3600, .wall, 3600⟩,
   ⟨1941, 1941, 5, .on 4, 3600, .wall, 3600⟩,
   ⟨1946, 1972, 4, .last .sun, 7200, .wall, 3600⟩,
   ⟨1946, 1956, 9, .last .sun, 7200, .wall, 0⟩,
   ⟨1957, 1972, 10, .last .sun, 7200, .wall, 0⟩,
   ⟨1993, 2006, 4, .onOrAfter .sun 1, 60, .wall, 3600⟩,
   ⟨1993, 2006, 10, .last .sun, 60, .wall, 0⟩]

/-- The rules of New York. -/
def newYork : List Rule :=
  [⟨1920, 1920, 3, .last .sun, 7200, .wall, 3600⟩,
   ⟨1920, 1920, 10, .last .sun, 7200, .wall, 0⟩,
   ⟨1921, 1966, 4, .last .sun, 7200, .wall, 3600⟩,
   ⟨1921, 1954, 9, .last .sun, 7200, .wall, 0⟩,
   ⟨1955, 1966, 10, .last .sun, 7200, .wall, 0⟩]

/-- The rules of Nicaragua. -/
def nicaragua : List Rule :=
  [⟨1979, 1980, 3, .onOrAfter .sun 16, 0, .wall, 3600⟩,
   ⟨1979, 1980, 6, .onOrAfter .mon 23, 0, .wall, 0⟩,
   ⟨2005, 2005, 4, .on 10, 0, .wall, 3600⟩,
   ⟨2005, 2005, 10, .onOrAfter .sun 1, 0, .wall, 0⟩,
   ⟨2006, 2006, 4, .on 30, 7200, .wall, 3600⟩,
   ⟨2006, 2006, 10, .onOrAfter .sun 1, 3600, .wall, 0⟩]

/-- The rules of Northwest Territories. -/
def northwestTerritories : List Rule :=
  [⟨1918, 1918, 4, .on 14, 7200, .wall, 3600⟩,
   ⟨1918, 1918, 10, .on 27, 7200, .wall, 0⟩,
   ⟨1919, 1919, 5, .on 25, 7200, .wall, 3600⟩,
   ⟨1919, 1919, 11, .on 1, 0, .wall, 0⟩,
   ⟨1942, 1942, 2, .on 9, 7200, .wall, 3600⟩,
   ⟨1945, 1945, 8, .on 14, 82800, .universal, 3600⟩,
   ⟨1945, 1945, 9, .on 30, 7200, .wall, 0⟩,
   ⟨1972, 1986, 4, .last .sun, 7200, .wall, 3600⟩,
   ⟨1972, 2006, 10, .last .sun, 7200, .wall, 0⟩,
   ⟨1987, 2006, 4, .onOrAfter .sun 1, 7200, .wall, 3600⟩]

/-- The rules of Perry. -/
def perry : List Rule :=
  [⟨1955, 1955, 5, .on 1, 0, .wall, 3600⟩,
   ⟨1955, 1960, 9, .last .sun, 7200, .wall, 0⟩,
   ⟨1956, 1963, 4, .last .sun, 7200, .wall, 3600⟩,
   ⟨1961, 1963, 10, .last .sun, 7200, .wall, 0⟩]

/-- The rules of Pike. -/
def pike : List Rule :=
  [⟨1955, 1955, 5, .on 1, 0, .wall, 3600⟩,
   ⟨1955, 1960, 9, .last .sun, 7200, .wall, 0⟩,
   ⟨1956, 1964, 4, .last .sun, 7200, .wall, 3600⟩,
   ⟨1961, 1964, 10, .last .sun, 7200, .wall, 0⟩]

/-- The rules of Pulaski. -/
def pulaski : List Rule :=
  [⟨1946, 1960, 4, .last .sun, 7200, .wall, 3600⟩,
   ⟨1946, 1954, 9, .last .sun, 7200, .wall, 0⟩,
   ⟨1955, 1956, 10, .last .sun, 7200, .wall, 0⟩,
   ⟨1957, 1960, 9, .last .sun, 7200, .wall, 0⟩]

/-- The rules of Regina. -/
def regina : List Rule :=
  [⟨1918, 1918, 4, .on 14, 7200, .wall, 3600⟩,
   ⟨1918, 1918, 10, .on 27, 7200, .wall, 0⟩,
   ⟨1930, 1934, 5, .onOrAfter .sun 1, 0, .wall, 3600⟩,
   ⟨1930, 1934, 10, .onOrAfter .sun 1, 0, .wall, 0⟩,
   ⟨1937, 1941, 4, .onOrAfter .sun 8, 0, .wall, 3600⟩,
   ⟨1937, 1937, 10, .onOrAfter .sun 8, 0, .wall, 0⟩,
   ⟨1938, 1938, 10, .onOrAfter .sun 1, 0, .wall, 0⟩,
   ⟨1939, 1941, 10, .onOrAfter .sun 8, 0, .wall, 0⟩,
   ⟨1942, 1942, 2, .on 9, 7200, .wall, 3600⟩,
   ⟨1945, 1945, 8, .on 14, 82800, .universal, 3600⟩,
   ⟨1945, 1945, 9, .last .sun, 7200, .wall, 0⟩,
   ⟨1946, 1946, 4, .onOrAfter .sun 8, 7200, .wall, 3600⟩,
   ⟨1946, 1946, 10, .onOrAfter .sun 8, 7200, .wall, 0⟩,
   ⟨1947, 1957, 4, .last .sun, 7200, .wall, 3600⟩,
   ⟨1947, 1957, 9, .last .sun, 7200, .wall, 0⟩,
   ⟨1959, 1959, 4, .last .sun, 7200, .wall, 3600⟩,
   ⟨1959, 1959, 10, .last .sun, 7200, .wall, 0⟩]

/-- The rules of St Johns. -/
def stJohns : List Rule :=
  [⟨1917, 1917, 4, .on 8, 7200, .wall, 3600⟩,
   ⟨1917, 1917, 9, .on 17, 7200, .wall, 0⟩,
   ⟨1919, 1919, 5, .on 5, 82800, .wall, 3600⟩,
   ⟨1919, 1919, 8, .on 12, 82800, .wall, 0⟩,
   ⟨1920, 1935, 5, .onOrAfter .sun 1, 82800, .wall, 3600⟩,
   ⟨1920, 1935, 10, .last .sun, 82800, .wall, 0⟩,
   ⟨1936, 1941, 5, .onOrAfter .mon 9, 0, .wall, 3600⟩,
   ⟨1936, 1941, 10, .onOrAfter .mon 2, 0, .wall, 0⟩,
   ⟨1946, 1950, 5, .onOrAfter .sun 8, 7200, .wall, 3600⟩,
   ⟨1946, 1950, 10, .onOrAfter .sun 2, 7200, .wall, 0⟩,
   ⟨1951, 1986, 4, .last .sun, 7200, .wall, 3600⟩,
   ⟨1951, 1959, 9, .last .sun, 7200, .wall, 0⟩,
   ⟨1960, 1986, 10, .last .sun, 7200, .wall, 0⟩,
   ⟨1987, 1987, 4, .onOrAfter .sun 1, 60, .wall, 3600⟩,
   ⟨1987, 2006, 10, .last .sun, 60, .wall, 0⟩,
   ⟨1988, 1988, 4, .onOrAfter .sun 1, 60, .wall, 7200⟩,
   ⟨1989, 2006, 4, .onOrAfter .sun 1, 60, .wall, 3600⟩,
   ⟨2007, 2011, 3, .onOrAfter .sun 8, 60, .wall, 3600⟩,
   ⟨2007, 2010, 11, .onOrAfter .sun 1, 60, .wall, 0⟩]

/-- The rules of Starke. -/
def starke : List Rule :=
  [⟨1947, 1961, 4, .last .sun, 7200, .wall, 3600⟩,
   ⟨1947, 1954, 9, .last .sun, 7200, .wall, 0⟩,
   ⟨1955, 1956, 10, .last .sun, 7200, .wall, 0⟩,
   ⟨1957, 1958, 9, .last .sun, 7200, .wall, 0⟩,
   ⟨1959, 1961, 10, .last .sun, 7200, .wall, 0⟩]

/-- The rules of Swift Current. -/
def swiftCurrent : List Rule :=
  [⟨1957, 1957, 4, .last .sun, 7200, .wall, 3600⟩,
   ⟨1957, 1957, 10, .last .sun, 7200, .wall, 0⟩,
   ⟨1959, 1961, 4, .last .sun, 7200, .wall, 3600⟩,
   ⟨1959, 1959, 10, .last .sun, 7200, .wall, 0⟩,
   ⟨1960, 1961, 9, .last .sun, 7200, .wall, 0⟩]

/-- The rules of Thule. -/
def thule : List Rule :=
  [⟨1991, 1992, 3, .last .sun, 7200, .wall, 3600⟩,
   ⟨1991, 1992, 9, .last .sun, 7200, .wall, 0⟩,
   ⟨1993, 2006, 4, .onOrAfter .sun 1, 7200, .wall, 3600⟩,
   ⟨1993, 2006, 10, .last .sun, 7200, .wall, 0⟩,
   ⟨2007, lastYear, 3, .onOrAfter .sun 8, 7200, .wall, 3600⟩,
   ⟨2007, lastYear, 11, .onOrAfter .sun 1, 7200, .wall, 0⟩]

/-- The rules of Toronto. -/
def toronto : List Rule :=
  [⟨1919, 1919, 3, .on 30, 84600, .wall, 3600⟩,
   ⟨1919, 1919, 10, .on 26, 0, .wall, 0⟩,
   ⟨1920, 1920, 5, .on 2, 7200, .wall, 3600⟩,
   ⟨1920, 1920, 9, .on 26, 0, .wall, 0⟩,
   ⟨1921, 1921, 5, .on 15, 7200, .wall, 3600⟩,
   ⟨1921, 1921, 9, .on 15, 7200, .wall, 0⟩,
   ⟨1922, 1923, 5, .onOrAfter .sun 8, 7200, .wall, 3600⟩,
   ⟨1922, 1926, 9, .onOrAfter .sun 15, 7200, .wall, 0⟩,
   ⟨1924, 1927, 5, .onOrAfter .sun 1, 7200, .wall, 3600⟩,
   ⟨1927, 1937, 9, .onOrAfter .sun 25, 7200, .wall, 0⟩,
   ⟨1928, 1937, 4, .onOrAfter .sun 25, 7200, .wall, 3600⟩,
   ⟨1938, 1940, 4, .last .sun, 7200, .wall, 3600⟩,
   ⟨1938, 1939, 9, .last .sun, 7200, .wall, 0⟩,
   ⟨1945, 1948, 9, .last .sun, 7200, .wall, 0⟩,
   ⟨1946, 1973, 4, .last .sun, 7200, .wall, 3600⟩,
   ⟨1949, 1950, 11, .last .sun, 7200, .wall, 0⟩,
   ⟨1951, 1956, 9, .last .sun, 7200, .wall, 0⟩,
   ⟨1957, 1973, 10, .last .sun, 7200, .wall, 0⟩]

/-- The rules of Vancouver. -/
def vancouver : List Rule :=
  [⟨1918, 1918, 4, .on 14, 7200, .wall, 3600⟩,
   ⟨1918, 1918, 10, .on 27, 7200, .wall, 0⟩,
   ⟨1942, 1942, 2, .on 9, 7200, .wall, 3600⟩,
   ⟨1945, 1945, 8, .on 14, 82800, .universal, 3600⟩,
   ⟨1945, 1945, 9, .on 30, 7200, .wall, 0⟩,
   ⟨1946, 1986, 4, .last .sun, 7200, .wall, 3600⟩,
   ⟨1946, 1946, 9, .on 29, 7200, .wall, 0⟩,
   ⟨1947, 1961, 9, .last .sun, 7200, .wall, 0⟩,
   ⟨1962, 2006, 10, .last .sun, 7200, .wall, 0⟩]

/-- The rules of Vincennes. -/
def vincennes : List Rule :=
  [⟨1946, 1946, 4, .last .sun, 7200, .wall, 3600⟩,
   ⟨1946, 1946, 9, .last .sun, 7200, .wall, 0⟩,
   ⟨1953, 1954, 4, .last .sun, 7200, .wall, 3600⟩,
   ⟨1953, 1959, 9, .last .sun, 7200, .wall, 0⟩,
   ⟨1955, 1955, 5, .on 1, 0, .wall, 3600⟩,
   ⟨1956, 1963, 4, .last .sun, 7200, .wall, 3600⟩,
   ⟨1960, 1960, 10, .last .sun, 7200, .wall, 0⟩,
   ⟨1961, 1961, 9, .last .sun, 7200, .wall, 0⟩,
   ⟨1962, 1963, 10, .last .sun, 7200, .wall, 0⟩]

/-- The rules of Winnipeg. -/
def winnipeg : List Rule :=
  [⟨1916, 1916, 4, .on 23, 0, .wall, 3600⟩,
   ⟨1916, 1916, 9, .on 17, 0, .wall, 0⟩,
   ⟨1918, 1918, 4, .on 14, 7200, .wall, 3600⟩,
   ⟨1918, 1918, 10, .on 27, 7200, .wall, 0⟩,
   ⟨1937, 1937, 5, .on 16, 7200, .wall, 3600⟩,
   ⟨1937, 1937, 9, .on 26, 7200, .wall, 0⟩,
   ⟨1942, 1942, 2, .on 9, 7200, .wall, 3600⟩,
   ⟨1945, 1945, 8, .on 14, 82800, .universal, 3600⟩,
   ⟨1945, 1945, 9, .last .sun, 7200, .wall, 0⟩,
   ⟨1946, 1946, 5, .on 12, 7200, .wall, 3600⟩,
   ⟨1946, 1946, 10, .on 13, 7200, .wall, 0⟩,
   ⟨1947, 1949, 4, .last .sun, 7200, .wall, 3600⟩,
   ⟨1947, 1949, 9, .last .sun, 7200, .wall, 0⟩,
   ⟨1950, 1950, 5, .on 1, 7200, .wall, 3600⟩,
   ⟨1950, 1950, 9, .on 30, 7200, .wall, 0⟩,
   ⟨1951, 1960, 4, .last .sun, 7200, .wall, 3600⟩,
   ⟨1951, 1958, 9, .last .sun, 7200, .wall, 0⟩,
   ⟨1959, 1959, 10, .last .sun, 7200, .wall, 0⟩,
   ⟨1960, 1960, 9, .last .sun, 7200, .wall, 0⟩,
   ⟨1963, 1963, 4, .last .sun, 7200, .wall, 3600⟩,
   ⟨1963, 1963, 9, .on 22, 7200, .wall, 0⟩,
   ⟨1966, 1986, 4, .last .sun, 7200, .standard, 3600⟩,
   ⟨1966, 2005, 10, .last .sun, 7200, .standard, 0⟩,
   ⟨1987, 2005, 4, .onOrAfter .sun 1, 7200, .standard, 3600⟩]

/-- The rules of Yukon. -/
def yukon : List Rule :=
  [⟨1965, 1965, 4, .last .sun, 0, .wall, 7200⟩,
   ⟨1965, 1965, 10, .last .sun, 7200, .wall, 0⟩]

/-! ### Histories -/

/-- The history of America/Adak. -/
def americaAdak : List Era :=
  [⟨44002, .fixed 0, some ⟨1867, 10, .on 19, 45875, .wall⟩⟩,
   ⟨-42398, .fixed 0, some ⟨1900, 8, .on 20, 43200, .wall⟩⟩,
   ⟨-39600, .fixed 0, some ⟨1942, 1, .on 1, 0, .wall⟩⟩,
   ⟨-39600, .recurring unitedStates, some ⟨1946, 1, .on 1, 0, .wall⟩⟩,
   ⟨-39600, .fixed 0, some ⟨1967, 4, .on 1, 0, .wall⟩⟩,
   ⟨-39600, .fixed 0, some ⟨1969, 1, .on 1, 0, .wall⟩⟩,
   ⟨-39600, .recurring unitedStates, some ⟨1983, 10, .on 30, 7200, .wall⟩⟩,
   ⟨-36000, .recurring unitedStates, some ⟨1983, 11, .on 30, 0, .wall⟩⟩,
   ⟨-36000, .recurring unitedStates, none⟩]

/-- The history of America/Anchorage. -/
def americaAnchorage : List Era :=
  [⟨50424, .fixed 0, some ⟨1867, 10, .on 19, 52297, .wall⟩⟩,
   ⟨-35976, .fixed 0, some ⟨1900, 8, .on 20, 43200, .wall⟩⟩,
   ⟨-36000, .fixed 0, some ⟨1942, 1, .on 1, 0, .wall⟩⟩,
   ⟨-36000, .recurring unitedStates, some ⟨1967, 4, .on 1, 0, .wall⟩⟩,
   ⟨-36000, .fixed 0, some ⟨1969, 1, .on 1, 0, .wall⟩⟩,
   ⟨-36000, .recurring unitedStates, some ⟨1983, 10, .on 30, 7200, .wall⟩⟩,
   ⟨-32400, .recurring unitedStates, some ⟨1983, 11, .on 30, 0, .wall⟩⟩,
   ⟨-32400, .recurring unitedStates, none⟩]

/-- The history of America/Bahia_Banderas. -/
def americaBahiaBanderas : List Era :=
  [⟨-25260, .fixed 0, some ⟨1922, 1, .on 1, 25200, .universal⟩⟩,
   ⟨-25200, .fixed 0, some ⟨1927, 6, .on 10, 0, .wall⟩⟩,
   ⟨-21600, .fixed 0, some ⟨1930, 11, .on 15, 0, .wall⟩⟩,
   ⟨-25200, .recurring mexico, some ⟨1932, 4, .on 1, 0, .wall⟩⟩,
   ⟨-21600, .fixed 0, some ⟨1942, 4, .on 24, 0, .wall⟩⟩,
   ⟨-25200, .fixed 0, some ⟨1970, 1, .on 1, 0, .wall⟩⟩,
   ⟨-25200, .recurring mexico, some ⟨2010, 4, .on 4, 7200, .wall⟩⟩,
   ⟨-21600, .recurring mexico, none⟩]

/-- The history of America/Barbados. -/
def americaBarbados : List Era :=
  [⟨-14309, .fixed 0, some ⟨1911, 8, .on 28, 0, .wall⟩⟩,
   ⟨-14400, .recurring barbados, some ⟨1944, 1, .on 1, 0, .wall⟩⟩,
   ⟨-14400, .recurring barbados, some ⟨1945, 1, .on 1, 0, .wall⟩⟩,
   ⟨-14400, .recurring barbados, none⟩]

/-- The history of America/Belize. -/
def americaBelize : List Era :=
  [⟨-21168, .fixed 0, some ⟨1912, 4, .on 1, 0, .wall⟩⟩,
   ⟨-21600, .recurring belize, none⟩]

/-- The history of America/Boise. -/
def americaBoise : List Era :=
  [⟨-27889, .fixed 0, some ⟨1883, 11, .on 18, 72000, .universal⟩⟩,
   ⟨-28800, .recurring unitedStates, some ⟨1923, 5, .on 13, 7200, .wall⟩⟩,
   ⟨-25200, .recurring unitedStates, some ⟨1974, 1, .on 1, 0, .wall⟩⟩,
   ⟨-25200, .fixed 0, some ⟨1974, 2, .on 3, 7200, .wall⟩⟩,
   ⟨-25200, .recurring unitedStates, none⟩]

/-- The history of America/Cambridge_Bay. -/
def americaCambridgeBay : List Era :=
  [⟨0, .fixed 0, some ⟨1920, 1, .on 1, 0, .wall⟩⟩,
   ⟨-25200, .recurring northwestTerritories, some ⟨1999, 10, .on 31, 7200, .wall⟩⟩,
   ⟨-21600, .recurring canada, some ⟨2000, 10, .on 29, 7200, .wall⟩⟩,
   ⟨-18000, .fixed 0, some ⟨2000, 11, .on 5, 0, .wall⟩⟩,
   ⟨-21600, .fixed 0, some ⟨2001, 4, .on 1, 10800, .wall⟩⟩,
   ⟨-25200, .recurring canada, none⟩]

/-- The history of America/Cancun. -/
def americaCancun : List Era :=
  [⟨-20824, .fixed 0, some ⟨1922, 1, .on 1, 21600, .universal⟩⟩,
   ⟨-21600, .fixed 0, some ⟨1981, 12, .on 26, 7200, .wall⟩⟩,
   ⟨-18000, .fixed 0, some ⟨1983, 1, .on 4, 0, .wall⟩⟩,
   ⟨-21600, .recurring mexico, some ⟨1997, 10, .on 26, 7200, .wall⟩⟩,
   ⟨-18000, .recurring mexico, some ⟨1998, 8, .on 2, 7200, .wall⟩⟩,
   ⟨-21600, .recurring mexico, some ⟨2015, 2, .on 1, 7200, .wall⟩⟩,
   ⟨-18000, .fixed 0, none⟩]

/-- The history of America/Chicago. -/
def americaChicago : List Era :=
  [⟨-21036, .fixed 0, some ⟨1883, 11, .on 18, 64800, .universal⟩⟩,
   ⟨-21600, .recurring unitedStates, some ⟨1920, 1, .on 1, 0, .wall⟩⟩,
   ⟨-21600, .recurring chicago, some ⟨1936, 3, .on 1, 7200, .wall⟩⟩,
   ⟨-18000, .fixed 0, some ⟨1936, 11, .on 15, 7200, .wall⟩⟩,
   ⟨-21600, .recurring chicago, some ⟨1942, 1, .on 1, 0, .wall⟩⟩,
   ⟨-21600, .recurring unitedStates, some ⟨1946, 1, .on 1, 0, .wall⟩⟩,
   ⟨-21600, .recurring chicago, some ⟨1967, 1, .on 1, 0, .wall⟩⟩,
   ⟨-21600, .recurring unitedStates, none⟩]

/-- The history of America/Chihuahua. -/
def americaChihuahua : List Era :=
  [⟨-25460, .fixed 0, some ⟨1922, 1, .on 1, 25200, .universal⟩⟩,
   ⟨-25200, .fixed 0, some ⟨1927, 6, .on 10, 0, .wall⟩⟩,
   ⟨-21600, .fixed 0, some ⟨1930, 11, .on 15, 0, .wall⟩⟩,
   ⟨-25200, .recurring mexico, some ⟨1932, 4, .on 1, 0, .wall⟩⟩,
   ⟨-21600, .fixed 0, some ⟨1996, 1, .on 1, 0, .wall⟩⟩,
   ⟨-21600, .recurring mexico, some ⟨1998, 1, .on 1, 0, .wall⟩⟩,
   ⟨-21600, .fixed 0, some ⟨1998, 4, .onOrAfter .sun 1, 10800, .wall⟩⟩,
   ⟨-25200, .recurring mexico, some ⟨2022, 10, .on 30, 7200, .wall⟩⟩,
   ⟨-21600, .fixed 0, none⟩]

/-- The history of America/Ciudad_Juarez. -/
def americaCiudadJuarez : List Era :=
  [⟨-25556, .fixed 0, some ⟨1922, 1, .on 1, 25200, .universal⟩⟩,
   ⟨-25200, .fixed 0, some ⟨1927, 6, .on 10, 0, .wall⟩⟩,
   ⟨-21600, .fixed 0, some ⟨1930, 11, .on 15, 0, .wall⟩⟩,
   ⟨-25200, .recurring mexico, some ⟨1932, 4, .on 1, 0, .wall⟩⟩,
   ⟨-21600, .fixed 0, some ⟨1996, 1, .on 1, 0, .wall⟩⟩,
   ⟨-21600, .recurring mexico, some ⟨1998, 1, .on 1, 0, .wall⟩⟩,
   ⟨-21600, .fixed 0, some ⟨1998, 4, .onOrAfter .sun 1, 10800, .wall⟩⟩,
   ⟨-25200, .recurring mexico, some ⟨2010, 1, .on 1, 0, .wall⟩⟩,
   ⟨-25200, .recurring unitedStates, some ⟨2022, 10, .on 30, 7200, .wall⟩⟩,
   ⟨-21600, .fixed 0, some ⟨2022, 11, .on 30, 0, .wall⟩⟩,
   ⟨-25200, .recurring unitedStates, none⟩]

/-- The history of America/Costa_Rica. -/
def americaCostaRica : List Era :=
  [⟨-20173, .fixed 0, some ⟨1890, 1, .on 1, 0, .wall⟩⟩,
   ⟨-20173, .fixed 0, some ⟨1921, 1, .on 15, 0, .wall⟩⟩,
   ⟨-21600, .recurring costaRica, none⟩]

/-- The history of America/Danmarkshavn. -/
def americaDanmarkshavn : List Era :=
  [⟨-4480, .fixed 0, some ⟨1916, 7, .on 28, 0, .wall⟩⟩,
   ⟨-10800, .fixed 0, some ⟨1980, 4, .on 6, 7200, .wall⟩⟩,
   ⟨-10800, .recurring europeanUnion, some ⟨1996, 1, .on 1, 0, .wall⟩⟩,
   ⟨0, .fixed 0, none⟩]

/-- The history of America/Dawson. -/
def americaDawson : List Era :=
  [⟨-33460, .fixed 0, some ⟨1900, 8, .on 20, 0, .wall⟩⟩,
   ⟨-32400, .recurring northwestTerritories, some ⟨1965, 1, .on 1, 0, .wall⟩⟩,
   ⟨-32400, .recurring yukon, some ⟨1973, 10, .on 28, 0, .wall⟩⟩,
   ⟨-28800, .fixed 0, some ⟨1980, 1, .on 1, 0, .wall⟩⟩,
   ⟨-28800, .recurring canada, some ⟨2020, 11, .on 1, 0, .wall⟩⟩,
   ⟨-25200, .fixed 0, none⟩]

/-- The history of America/Dawson_Creek. -/
def americaDawsonCreek : List Era :=
  [⟨-28856, .fixed 0, some ⟨1884, 1, .on 1, 0, .wall⟩⟩,
   ⟨-28800, .recurring canada, some ⟨1947, 1, .on 1, 0, .wall⟩⟩,
   ⟨-28800, .recurring vancouver, some ⟨1972, 8, .on 30, 7200, .wall⟩⟩,
   ⟨-25200, .fixed 0, none⟩]

/-- The history of America/Denver. -/
def americaDenver : List Era :=
  [⟨-25196, .fixed 0, some ⟨1883, 11, .on 18, 68400, .universal⟩⟩,
   ⟨-25200, .recurring unitedStates, some ⟨1920, 1, .on 1, 0, .wall⟩⟩,
   ⟨-25200, .recurring denver, some ⟨1942, 1, .on 1, 0, .wall⟩⟩,
   ⟨-25200, .recurring unitedStates, some ⟨1946, 1, .on 1, 0, .wall⟩⟩,
   ⟨-25200, .recurring denver, some ⟨1967, 1, .on 1, 0, .wall⟩⟩,
   ⟨-25200, .recurring unitedStates, none⟩]

/-- The history of America/Detroit. -/
def americaDetroit : List Era :=
  [⟨-19931, .fixed 0, some ⟨1905, 1, .on 1, 0, .wall⟩⟩,
   ⟨-21600, .fixed 0, some ⟨1915, 5, .on 15, 7200, .wall⟩⟩,
   ⟨-18000, .fixed 0, some ⟨1942, 1, .on 1, 0, .wall⟩⟩,
   ⟨-18000, .recurring unitedStates, some ⟨1946, 1, .on 1, 0, .wall⟩⟩,
   ⟨-18000, .recurring detroit, some ⟨1967, 6, .on 14, 60, .wall⟩⟩,
   ⟨-18000, .recurring unitedStates, some ⟨1969, 1, .on 1, 0, .wall⟩⟩,
   ⟨-18000, .fixed 0, some ⟨1973, 1, .on 1, 0, .wall⟩⟩,
   ⟨-18000, .recurring unitedStates, some ⟨1975, 1, .on 1, 0, .wall⟩⟩,
   ⟨-18000, .fixed 0, some ⟨1975, 4, .on 27, 7200, .wall⟩⟩,
   ⟨-18000, .recurring unitedStates, none⟩]

/-- The history of America/Edmonton. -/
def americaEdmonton : List Era :=
  [⟨-27232, .fixed 0, some ⟨1906, 9, .on 1, 0, .wall⟩⟩,
   ⟨-25200, .recurring edmonton, some ⟨1987, 1, .on 1, 0, .wall⟩⟩,
   ⟨-25200, .recurring canada, none⟩]

/-- The history of America/El_Salvador. -/
def americaElSalvador : List Era :=
  [⟨-21408, .fixed 0, some ⟨1921, 1, .on 1, 0, .wall⟩⟩,
   ⟨-21600, .recurring elSalvador, none⟩]

/-- The history of America/Fort_Nelson. -/
def americaFortNelson : List Era :=
  [⟨-29447, .fixed 0, some ⟨1884, 1, .on 1, 0, .wall⟩⟩,
   ⟨-28800, .recurring vancouver, some ⟨1946, 1, .on 1, 0, .wall⟩⟩,
   ⟨-28800, .fixed 0, some ⟨1947, 1, .on 1, 0, .wall⟩⟩,
   ⟨-28800, .recurring vancouver, some ⟨1987, 1, .on 1, 0, .wall⟩⟩,
   ⟨-28800, .recurring canada, some ⟨2015, 3, .on 8, 7200, .wall⟩⟩,
   ⟨-25200, .fixed 0, none⟩]

/-- The history of America/Glace_Bay. -/
def americaGlaceBay : List Era :=
  [⟨-14388, .fixed 0, some ⟨1902, 6, .on 15, 0, .wall⟩⟩,
   ⟨-14400, .recurring canada, some ⟨1953, 1, .on 1, 0, .wall⟩⟩,
   ⟨-14400, .recurring halifax, some ⟨1954, 1, .on 1, 0, .wall⟩⟩,
   ⟨-14400, .fixed 0, some ⟨1972, 1, .on 1, 0, .wall⟩⟩,
   ⟨-14400, .recurring halifax, some ⟨1974, 1, .on 1, 0, .wall⟩⟩,
   ⟨-14400, .recurring canada, none⟩]

/-- The history of America/Goose_Bay. -/
def americaGooseBay : List Era :=
  [⟨-14500, .fixed 0, some ⟨1884, 1, .on 1, 0, .wall⟩⟩,
   ⟨-12652, .fixed 0, some ⟨1918, 1, .on 1, 0, .wall⟩⟩,
   ⟨-12652, .recurring canada, some ⟨1919, 1, .on 1, 0, .wall⟩⟩,
   ⟨-12652, .fixed 0, some ⟨1935, 3, .on 30, 0, .wall⟩⟩,
   ⟨-12600, .fixed 0, some ⟨1936, 1, .on 1, 0, .wall⟩⟩,
   ⟨-12600, .recurring stJohns, some ⟨1942, 5, .on 11, 0, .wall⟩⟩,
   ⟨-12600, .recurring canada, some ⟨1946, 1, .on 1, 0, .wall⟩⟩,
   ⟨-12600, .recurring stJohns, some ⟨1966, 3, .on 15, 7200, .wall⟩⟩,
   ⟨-14400, .recurring stJohns, some ⟨2011, 11, .on 1, 0, .wall⟩⟩,
   ⟨-14400, .recurring canada, none⟩]

/-- The history of America/Grand_Turk. -/
def americaGrandTurk : List Era :=
  [⟨-17072, .fixed 0, some ⟨1890, 1, .on 1, 0, .wall⟩⟩,
   ⟨-18430, .fixed 0, some ⟨1912, 2, .on 1, 0, .wall⟩⟩,
   ⟨-18000, .fixed 0, some ⟨1979, 1, .on 1, 0, .wall⟩⟩,
   ⟨-18000, .recurring unitedStates, some ⟨2015, 3, .on 8, 7200, .wall⟩⟩,
   ⟨-14400, .fixed 0, some ⟨2018, 3, .on 11, 10800, .wall⟩⟩,
   ⟨-18000, .recurring unitedStates, none⟩]

/-- The history of America/Guatemala. -/
def americaGuatemala : List Era :=
  [⟨-21724, .fixed 0, some ⟨1918, 10, .on 5, 0, .wall⟩⟩,
   ⟨-21600, .recurring guatemala, none⟩]

/-- The history of America/Halifax. -/
def americaHalifax : List Era :=
  [⟨-15264, .fixed 0, some ⟨1902, 6, .on 15, 0, .wall⟩⟩,
   ⟨-14400, .recurring halifax, some ⟨1918, 1, .on 1, 0, .wall⟩⟩,
   ⟨-14400, .recurring canada, some ⟨1919, 1, .on 1, 0, .wall⟩⟩,
   ⟨-14400, .recurring halifax, some ⟨1942, 2, .on 9, 7200, .standard⟩⟩,
   ⟨-14400, .recurring canada, some ⟨1946, 1, .on 1, 0, .wall⟩⟩,
   ⟨-14400, .recurring halifax, some ⟨1974, 1, .on 1, 0, .wall⟩⟩,
   ⟨-14400, .recurring canada, none⟩]

/-- The history of America/Havana. -/
def americaHavana : List Era :=
  [⟨-19768, .fixed 0, some ⟨1890, 1, .on 1, 0, .wall⟩⟩,
   ⟨-19776, .fixed 0, some ⟨1925, 7, .on 19, 43200, .wall⟩⟩,
   ⟨-18000, .recurring cuba, none⟩]

/-- The history of America/Hermosillo. -/
def americaHermosillo : List Era :=
  [⟨-26632, .fixed 0, some ⟨1922, 1, .on 1, 25200, .universal⟩⟩,
   ⟨-25200, .fixed 0, some ⟨1927, 6, .on 10, 0, .wall⟩⟩,
   ⟨-21600, .fixed 0, some ⟨1930, 11, .on 15, 0, .wall⟩⟩,
   ⟨-25200, .recurring mexico, some ⟨1932, 4, .on 1, 0, .wall⟩⟩,
   ⟨-21600, .fixed 0, some ⟨1942, 4, .on 24, 0, .wall⟩⟩,
   ⟨-25200, .fixed 0, some ⟨1996, 1, .on 1, 0, .wall⟩⟩,
   ⟨-25200, .recurring mexico, some ⟨1999, 1, .on 1, 0, .wall⟩⟩,
   ⟨-25200, .fixed 0, none⟩]

/-- The history of America/Indiana/Indianapolis. -/
def americaIndianaIndianapolis : List Era :=
  [⟨-20678, .fixed 0, some ⟨1883, 11, .on 18, 64800, .universal⟩⟩,
   ⟨-21600, .recurring unitedStates, some ⟨1920, 1, .on 1, 0, .wall⟩⟩,
   ⟨-21600, .recurring indianapolis, some ⟨1942, 1, .on 1, 0, .wall⟩⟩,
   ⟨-21600, .recurring unitedStates, some ⟨1946, 1, .on 1, 0, .wall⟩⟩,
   ⟨-21600, .recurring indianapolis, some ⟨1955, 4, .on 24, 7200, .wall⟩⟩,
   ⟨-18000, .fixed 0, some ⟨1957, 9, .on 29, 7200, .wall⟩⟩,
   ⟨-21600, .fixed 0, some ⟨1958, 4, .on 27, 7200, .wall⟩⟩,
   ⟨-18000, .fixed 0, some ⟨1969, 1, .on 1, 0, .wall⟩⟩,
   ⟨-18000, .recurring unitedStates, some ⟨1971, 1, .on 1, 0, .wall⟩⟩,
   ⟨-18000, .fixed 0, some ⟨2006, 1, .on 1, 0, .wall⟩⟩,
   ⟨-18000, .recurring unitedStates, none⟩]

/-- The history of America/Indiana/Knox. -/
def americaIndianaKnox : List Era :=
  [⟨-20790, .fixed 0, some ⟨1883, 11, .on 18, 64800, .universal⟩⟩,
   ⟨-21600, .recurring unitedStates, some ⟨1947, 1, .on 1, 0, .wall⟩⟩,
   ⟨-21600, .recurring starke, some ⟨1962, 4, .on 29, 7200, .wall⟩⟩,
   ⟨-18000, .fixed 0, some ⟨1963, 10, .on 27, 7200, .wall⟩⟩,
   ⟨-21600, .recurring unitedStates, some ⟨1991, 10, .on 27, 7200, .wall⟩⟩,
   ⟨-18000, .fixed 0, some ⟨2006, 4, .on 2, 7200, .wall⟩⟩,
   ⟨-21600, .recurring unitedStates, none⟩]

/-- The history of America/Indiana/Marengo. -/
def americaIndianaMarengo : List Era :=
  [⟨-20723, .fixed 0, some ⟨1883, 11, .on 18, 64800, .universal⟩⟩,
   ⟨-21600, .recurring unitedStates, some ⟨1951, 1, .on 1, 0, .wall⟩⟩,
   ⟨-21600, .recurring marengo, some ⟨1961, 4, .on 30, 7200, .wall⟩⟩,
   ⟨-18000, .fixed 0, some ⟨1969, 1, .on 1, 0, .wall⟩⟩,
   ⟨-18000, .recurring unitedStates, some ⟨1974, 1, .on 6, 7200, .wall⟩⟩,
   ⟨-21600, .fixed 3600, some ⟨1974, 10, .on 27, 7200, .wall⟩⟩,
   ⟨-18000, .recurring unitedStates, some ⟨1976, 1, .on 1, 0, .wall⟩⟩,
   ⟨-18000, .fixed 0, some ⟨2006, 1, .on 1, 0, .wall⟩⟩,
   ⟨-18000, .recurring unitedStates, none⟩]

/-- The history of America/Indiana/Petersburg. -/
def americaIndianaPetersburg : List Era :=
  [⟨-20947, .fixed 0, some ⟨1883, 11, .on 18, 64800, .universal⟩⟩,
   ⟨-21600, .recurring unitedStates, some ⟨1955, 1, .on 1, 0, .wall⟩⟩,
   ⟨-21600, .recurring pike, some ⟨1965, 4, .on 25, 7200, .wall⟩⟩,
   ⟨-18000, .fixed 0, some ⟨1966, 10, .on 30, 7200, .wall⟩⟩,
   ⟨-21600, .recurring unitedStates, some ⟨1977, 10, .on 30, 7200, .wall⟩⟩,
   ⟨-18000, .fixed 0, some ⟨2006, 4, .on 2, 7200, .wall⟩⟩,
   ⟨-21600, .recurring unitedStates, some ⟨2007, 11, .on 4, 7200, .wall⟩⟩,
   ⟨-18000, .recurring unitedStates, none⟩]

/-- The history of America/Indiana/Tell_City. -/
def americaIndianaTellCity : List Era :=
  [⟨-20823, .fixed 0, some ⟨1883, 11, .on 18, 64800, .universal⟩⟩,
   ⟨-21600, .recurring unitedStates, some ⟨1946, 1, .on 1, 0, .wall⟩⟩,
   ⟨-21600, .recurring perry, some ⟨1964, 4, .on 26, 7200, .wall⟩⟩,
   ⟨-18000, .fixed 0, some ⟨1967, 10, .on 29, 7200, .wall⟩⟩,
   ⟨-21600, .recurring unitedStates, some ⟨1969, 4, .on 27, 7200, .wall⟩⟩,
   ⟨-18000, .recurring unitedStates, some ⟨1971, 1, .on 1, 0, .wall⟩⟩,
   ⟨-18000, .fixed 0, some ⟨2006, 4, .on 2, 7200, .wall⟩⟩,
   ⟨-21600, .recurring unitedStates, none⟩]

/-- The history of America/Indiana/Vevay. -/
def americaIndianaVevay : List Era :=
  [⟨-20416, .fixed 0, some ⟨1883, 11, .on 18, 64800, .universal⟩⟩,
   ⟨-21600, .recurring unitedStates, some ⟨1954, 4, .on 25, 7200, .wall⟩⟩,
   ⟨-18000, .fixed 0, some ⟨1969, 1, .on 1, 0, .wall⟩⟩,
   ⟨-18000, .recurring unitedStates, some ⟨1973, 1, .on 1, 0, .wall⟩⟩,
   ⟨-18000, .fixed 0, some ⟨2006, 1, .on 1, 0, .wall⟩⟩,
   ⟨-18000, .recurring unitedStates, none⟩]

/-- The history of America/Indiana/Vincennes. -/
def americaIndianaVincennes : List Era :=
  [⟨-21007, .fixed 0, some ⟨1883, 11, .on 18, 64800, .universal⟩⟩,
   ⟨-21600, .recurring unitedStates, some ⟨1946, 1, .on 1, 0, .wall⟩⟩,
   ⟨-21600, .recurring vincennes, some ⟨1964, 4, .on 26, 7200, .wall⟩⟩,
   ⟨-18000, .fixed 0, some ⟨1969, 1, .on 1, 0, .wall⟩⟩,
   ⟨-18000, .recurring unitedStates, some ⟨1971, 1, .on 1, 0, .wall⟩⟩,
   ⟨-18000, .fixed 0, some ⟨2006, 4, .on 2, 7200, .wall⟩⟩,
   ⟨-21600, .recurring unitedStates, some ⟨2007, 11, .on 4, 7200, .wall⟩⟩,
   ⟨-18000, .recurring unitedStates, none⟩]

/-- The history of America/Indiana/Winamac. -/
def americaIndianaWinamac : List Era :=
  [⟨-20785, .fixed 0, some ⟨1883, 11, .on 18, 64800, .universal⟩⟩,
   ⟨-21600, .recurring unitedStates, some ⟨1946, 1, .on 1, 0, .wall⟩⟩,
   ⟨-21600, .recurring pulaski, some ⟨1961, 4, .on 30, 7200, .wall⟩⟩,
   ⟨-18000, .fixed 0, some ⟨1969, 1, .on 1, 0, .wall⟩⟩,
   ⟨-18000, .recurring unitedStates, some ⟨1971, 1, .on 1, 0, .wall⟩⟩,
   ⟨-18000, .fixed 0, some ⟨2006, 4, .on 2, 7200, .wall⟩⟩,
   ⟨-21600, .recurring unitedStates, some ⟨2007, 3, .on 11, 7200, .wall⟩⟩,
   ⟨-18000, .recurring unitedStates, none⟩]

/-- The history of America/Inuvik. -/
def americaInuvik : List Era :=
  [⟨0, .fixed 0, some ⟨1953, 1, .on 1, 0, .wall⟩⟩,
   ⟨-28800, .recurring northwestTerritories, some ⟨1979, 4, .last .sun, 7200, .wall⟩⟩,
   ⟨-25200, .recurring northwestTerritories, some ⟨1980, 1, .on 1, 0, .wall⟩⟩,
   ⟨-25200, .recurring canada, none⟩]

/-- The history of America/Iqaluit. -/
def americaIqaluit : List Era :=
  [⟨0, .fixed 0, some ⟨1942, 8, .on 1, 0, .wall⟩⟩,
   ⟨-18000, .recurring northwestTerritories, some ⟨1999, 10, .on 31, 7200, .wall⟩⟩,
   ⟨-21600, .recurring canada, some ⟨2000, 10, .on 29, 7200, .wall⟩⟩,
   ⟨-18000, .recurring canada, none⟩]

/-- The history of America/Jamaica. -/
def americaJamaica : List Era :=
  [⟨-18430, .fixed 0, some ⟨1890, 1, .on 1, 0, .wall⟩⟩,
   ⟨-18430, .fixed 0, some ⟨1912, 2, .on 1, 0, .wall⟩⟩,
   ⟨-18000, .fixed 0, some ⟨1974, 1, .on 1, 0, .wall⟩⟩,
   ⟨-18000, .recurring unitedStates, some ⟨1984, 1, .on 1, 0, .wall⟩⟩,
   ⟨-18000, .fixed 0, none⟩]

/-- The history of America/Juneau. -/
def americaJuneau : List Era :=
  [⟨54139, .fixed 0, some ⟨1867, 10, .on 19, 56012, .wall⟩⟩,
   ⟨-32261, .fixed 0, some ⟨1900, 8, .on 20, 43200, .wall⟩⟩,
   ⟨-28800, .fixed 0, some ⟨1942, 1, .on 1, 0, .wall⟩⟩,
   ⟨-28800, .recurring unitedStates, some ⟨1946, 1, .on 1, 0, .wall⟩⟩,
   ⟨-28800, .fixed 0, some ⟨1969, 1, .on 1, 0, .wall⟩⟩,
   ⟨-28800, .recurring unitedStates, some ⟨1980, 4, .on 27, 7200, .wall⟩⟩,
   ⟨-32400, .recurring unitedStates, some ⟨1980, 10, .on 26, 7200, .wall⟩⟩,
   ⟨-28800, .recurring unitedStates, some ⟨1983, 10, .on 30, 7200, .wall⟩⟩,
   ⟨-32400, .recurring unitedStates, some ⟨1983, 11, .on 30, 0, .wall⟩⟩,
   ⟨-32400, .recurring unitedStates, none⟩]

/-- The history of America/Kentucky/Louisville. -/
def americaKentuckyLouisville : List Era :=
  [⟨-20582, .fixed 0, some ⟨1883, 11, .on 18, 64800, .universal⟩⟩,
   ⟨-21600, .recurring unitedStates, some ⟨1921, 1, .on 1, 0, .wall⟩⟩,
   ⟨-21600, .recurring louisville, some ⟨1942, 1, .on 1, 0, .wall⟩⟩,
   ⟨-21600, .recurring unitedStates, some ⟨1946, 1, .on 1, 0, .wall⟩⟩,
   ⟨-21600, .recurring louisville, some ⟨1961, 7, .on 23, 7200, .wall⟩⟩,
   ⟨-18000, .fixed 0, some ⟨1968, 1, .on 1, 0, .wall⟩⟩,
   ⟨-18000, .recurring unitedStates, some ⟨1974, 1, .on 6, 7200, .wall⟩⟩,
   ⟨-21600, .fixed 3600, some ⟨1974, 10, .on 27, 7200, .wall⟩⟩,
   ⟨-18000, .recurring unitedStates, none⟩]

/-- The history of America/Kentucky/Monticello. -/
def americaKentuckyMonticello : List Era :=
  [⟨-20364, .fixed 0, some ⟨1883, 11, .on 18, 64800, .universal⟩⟩,
   ⟨-21600, .recurring unitedStates, some ⟨1946, 1, .on 1, 0, .wall⟩⟩,
   ⟨-21600, .fixed 0, some ⟨1968, 1, .on 1, 0, .wall⟩⟩,
   ⟨-21600, .recurring unitedStates, some ⟨2000, 10, .on 29, 7200, .wall⟩⟩,
   ⟨-18000, .recurring unitedStates, none⟩]

/-- The history of America/Los_Angeles. -/
def americaLosAngeles : List Era :=
  [⟨-28378, .fixed 0, some ⟨1883, 11, .on 18, 72000, .universal⟩⟩,
   ⟨-28800, .recurring unitedStates, some ⟨1946, 1, .on 1, 0, .wall⟩⟩,
   ⟨-28800, .recurring california, some ⟨1967, 1, .on 1, 0, .wall⟩⟩,
   ⟨-28800, .recurring unitedStates, none⟩]

/-- The history of America/Managua. -/
def americaManagua : List Era :=
  [⟨-20708, .fixed 0, some ⟨1890, 1, .on 1, 0, .wall⟩⟩,
   ⟨-20712, .fixed 0, some ⟨1934, 6, .on 23, 0, .wall⟩⟩,
   ⟨-21600, .fixed 0, some ⟨1973, 5, .on 1, 0, .wall⟩⟩,
   ⟨-18000, .fixed 0, some ⟨1975, 2, .on 16, 0, .wall⟩⟩,
   ⟨-21600, .recurring nicaragua, some ⟨1992, 1, .on 1, 14400, .wall⟩⟩,
   ⟨-18000, .fixed 0, some ⟨1992, 9, .on 24, 0, .wall⟩⟩,
   ⟨-21600, .fixed 0, some ⟨1993, 1, .on 1, 0, .wall⟩⟩,
   ⟨-18000, .fixed 0, some ⟨1997, 1, .on 1, 0, .wall⟩⟩,
   ⟨-21600, .recurring nicaragua, none⟩]

/-- The history of America/Martinique. -/
def americaMartinique : List Era :=
  [⟨-14660, .fixed 0, some ⟨1890, 1, .on 1, 0, .wall⟩⟩,
   ⟨-14660, .fixed 0, some ⟨1911, 5, .on 1, 0, .wall⟩⟩,
   ⟨-14400, .fixed 0, some ⟨1980, 4, .on 6, 0, .wall⟩⟩,
   ⟨-14400, .fixed 3600, some ⟨1980, 9, .on 28, 0, .wall⟩⟩,
   ⟨-14400, .fixed 0, none⟩]

/-- The history of America/Matamoros. -/
def americaMatamoros : List Era :=
  [⟨-23400, .fixed 0, some ⟨1922, 1, .on 1, 21600, .universal⟩⟩,
   ⟨-21600, .fixed 0, some ⟨1988, 1, .on 1, 0, .wall⟩⟩,
   ⟨-21600, .recurring unitedStates, some ⟨1989, 1, .on 1, 0, .wall⟩⟩,
   ⟨-21600, .recurring mexico, some ⟨2010, 1, .on 1, 0, .wall⟩⟩,
   ⟨-21600, .recurring unitedStates, none⟩]

/-- The history of America/Mazatlan. -/
def americaMazatlan : List Era :=
  [⟨-25540, .fixed 0, some ⟨1922, 1, .on 1, 25200, .universal⟩⟩,
   ⟨-25200, .fixed 0, some ⟨1927, 6, .on 10, 0, .wall⟩⟩,
   ⟨-21600, .fixed 0, some ⟨1930, 11, .on 15, 0, .wall⟩⟩,
   ⟨-25200, .recurring mexico, some ⟨1932, 4, .on 1, 0, .wall⟩⟩,
   ⟨-21600, .fixed 0, some ⟨1942, 4, .on 24, 0, .wall⟩⟩,
   ⟨-25200, .fixed 0, some ⟨1970, 1, .on 1, 0, .wall⟩⟩,
   ⟨-25200, .recurring mexico, none⟩]

/-- The history of America/Menominee. -/
def americaMenominee : List Era :=
  [⟨-21027, .fixed 0, some ⟨1885, 9, .on 18, 43200, .wall⟩⟩,
   ⟨-21600, .recurring unitedStates, some ⟨1946, 1, .on 1, 0, .wall⟩⟩,
   ⟨-21600, .recurring menominee, some ⟨1969, 4, .on 27, 7200, .wall⟩⟩,
   ⟨-18000, .fixed 0, some ⟨1973, 4, .on 29, 7200, .wall⟩⟩,
   ⟨-21600, .recurring unitedStates, none⟩]

/-- The history of America/Merida. -/
def americaMerida : List Era :=
  [⟨-21508, .fixed 0, some ⟨1922, 1, .on 1, 21600, .universal⟩⟩,
   ⟨-21600, .fixed 0, some ⟨1981, 12, .on 26, 7200, .wall⟩⟩,
   ⟨-18000, .fixed 0, some ⟨1982, 11, .on 2, 7200, .wall⟩⟩,
   ⟨-21600, .recurring mexico, none⟩]

/-- The history of America/Metlakatla. -/
def americaMetlakatla : List Era :=
  [⟨54822, .fixed 0, some ⟨1867, 10, .on 19, 56695, .wall⟩⟩,
   ⟨-31578, .fixed 0, some ⟨1900, 8, .on 20, 43200, .wall⟩⟩,
   ⟨-28800, .fixed 0, some ⟨1942, 1, .on 1, 0, .wall⟩⟩,
   ⟨-28800, .recurring unitedStates, some ⟨1946, 1, .on 1, 0, .wall⟩⟩,
   ⟨-28800, .fixed 0, some ⟨1969, 1, .on 1, 0, .wall⟩⟩,
   ⟨-28800, .recurring unitedStates, some ⟨1983, 10, .on 30, 7200, .wall⟩⟩,
   ⟨-28800, .fixed 0, some ⟨2015, 11, .on 1, 7200, .wall⟩⟩,
   ⟨-32400, .recurring unitedStates, some ⟨2018, 11, .on 4, 7200, .wall⟩⟩,
   ⟨-28800, .fixed 0, some ⟨2019, 1, .on 20, 7200, .wall⟩⟩,
   ⟨-32400, .recurring unitedStates, none⟩]

/-- The history of America/Mexico_City. -/
def americaMexicoCity : List Era :=
  [⟨-23796, .fixed 0, some ⟨1922, 1, .on 1, 25200, .universal⟩⟩,
   ⟨-25200, .fixed 0, some ⟨1927, 6, .on 10, 0, .wall⟩⟩,
   ⟨-21600, .fixed 0, some ⟨1930, 11, .on 15, 0, .wall⟩⟩,
   ⟨-25200, .recurring mexico, some ⟨1932, 4, .on 1, 0, .wall⟩⟩,
   ⟨-21600, .recurring mexico, some ⟨2001, 9, .on 30, 7200, .wall⟩⟩,
   ⟨-21600, .fixed 0, some ⟨2002, 2, .on 20, 0, .wall⟩⟩,
   ⟨-21600, .recurring mexico, none⟩]

/-- The history of America/Miquelon. -/
def americaMiquelon : List Era :=
  [⟨-13480, .fixed 0, some ⟨1911, 6, .on 15, 0, .wall⟩⟩,
   ⟨-14400, .fixed 0, some ⟨1980, 5, .on 1, 0, .wall⟩⟩,
   ⟨-10800, .fixed 0, some ⟨1987, 1, .on 1, 0, .wall⟩⟩,
   ⟨-10800, .recurring canada, none⟩]

/-- The history of America/Moncton. -/
def americaMoncton : List Era :=
  [⟨-15548, .fixed 0, some ⟨1883, 12, .on 9, 0, .wall⟩⟩,
   ⟨-18000, .fixed 0, some ⟨1902, 6, .on 15, 0, .wall⟩⟩,
   ⟨-14400, .recurring canada, some ⟨1933, 1, .on 1, 0, .wall⟩⟩,
   ⟨-14400, .recurring moncton, some ⟨1942, 1, .on 1, 0, .wall⟩⟩,
   ⟨-14400, .recurring canada, some ⟨1946, 1, .on 1, 0, .wall⟩⟩,
   ⟨-14400, .recurring moncton, some ⟨1973, 1, .on 1, 0, .wall⟩⟩,
   ⟨-14400, .recurring canada, some ⟨1993, 1, .on 1, 0, .wall⟩⟩,
   ⟨-14400, .recurring moncton, some ⟨2007, 1, .on 1, 0, .wall⟩⟩,
   ⟨-14400, .recurring canada, none⟩]

/-- The history of America/Monterrey. -/
def americaMonterrey : List Era :=
  [⟨-24076, .fixed 0, some ⟨1922, 1, .on 1, 21600, .universal⟩⟩,
   ⟨-25200, .fixed 0, some ⟨1927, 6, .on 10, 0, .wall⟩⟩,
   ⟨-21600, .fixed 0, some ⟨1930, 11, .on 15, 0, .wall⟩⟩,
   ⟨-25200, .recurring mexico, some ⟨1932, 4, .on 1, 0, .wall⟩⟩,
   ⟨-21600, .fixed 0, some ⟨1988, 1, .on 1, 0, .wall⟩⟩,
   ⟨-21600, .recurring unitedStates, some ⟨1989, 1, .on 1, 0, .wall⟩⟩,
   ⟨-21600, .recurring mexico, none⟩]

/-- The history of America/New_York. -/
def americaNewYork : List Era :=
  [⟨-17762, .fixed 0, some ⟨1883, 11, .on 18, 61200, .universal⟩⟩,
   ⟨-18000, .recurring unitedStates, some ⟨1920, 1, .on 1, 0, .wall⟩⟩,
   ⟨-18000, .recurring newYork, some ⟨1942, 1, .on 1, 0, .wall⟩⟩,
   ⟨-18000, .recurring unitedStates, some ⟨1946, 1, .on 1, 0, .wall⟩⟩,
   ⟨-18000, .recurring newYork, some ⟨1967, 1, .on 1, 0, .wall⟩⟩,
   ⟨-18000, .recurring unitedStates, none⟩]

/-- The history of America/Nome. -/
def americaNome : List Era :=
  [⟨46702, .fixed 0, some ⟨1867, 10, .on 19, 48575, .wall⟩⟩,
   ⟨-39698, .fixed 0, some ⟨1900, 8, .on 20, 43200, .wall⟩⟩,
   ⟨-39600, .fixed 0, some ⟨1942, 1, .on 1, 0, .wall⟩⟩,
   ⟨-39600, .recurring unitedStates, some ⟨1946, 1, .on 1, 0, .wall⟩⟩,
   ⟨-39600, .fixed 0, some ⟨1967, 4, .on 1, 0, .wall⟩⟩,
   ⟨-39600, .fixed 0, some ⟨1969, 1, .on 1, 0, .wall⟩⟩,
   ⟨-39600, .recurring unitedStates, some ⟨1983, 10, .on 30, 7200, .wall⟩⟩,
   ⟨-32400, .recurring unitedStates, some ⟨1983, 11, .on 30, 0, .wall⟩⟩,
   ⟨-32400, .recurring unitedStates, none⟩]

/-- The history of America/North_Dakota/Beulah. -/
def americaNorthDakotaBeulah : List Era :=
  [⟨-24427, .fixed 0, some ⟨1883, 11, .on 18, 68400, .universal⟩⟩,
   ⟨-25200, .recurring unitedStates, some ⟨2010, 11, .on 7, 7200, .wall⟩⟩,
   ⟨-21600, .recurring unitedStates, none⟩]

/-- The history of America/North_Dakota/Center. -/
def americaNorthDakotaCenter : List Era :=
  [⟨-24312, .fixed 0, some ⟨1883, 11, .on 18, 68400, .universal⟩⟩,
   ⟨-25200, .recurring unitedStates, some ⟨1992, 10, .on 25, 7200, .wall⟩⟩,
   ⟨-21600, .recurring unitedStates, none⟩]

/-- The history of America/North_Dakota/New_Salem. -/
def americaNorthDakotaNewSalem : List Era :=
  [⟨-24339, .fixed 0, some ⟨1883, 11, .on 18, 68400, .universal⟩⟩,
   ⟨-25200, .recurring unitedStates, some ⟨2003, 10, .on 26, 7200, .wall⟩⟩,
   ⟨-21600, .recurring unitedStates, none⟩]

/-- The history of America/Nuuk. -/
def americaNuuk : List Era :=
  [⟨-12416, .fixed 0, some ⟨1916, 7, .on 28, 0, .wall⟩⟩,
   ⟨-10800, .fixed 0, some ⟨1980, 4, .on 6, 7200, .wall⟩⟩,
   ⟨-10800, .recurring europeanUnion, some ⟨2023, 3, .on 26, 3600, .universal⟩⟩,
   ⟨-7200, .fixed 0, some ⟨2023, 10, .on 29, 3600, .universal⟩⟩,
   ⟨-7200, .recurring europeanUnion, none⟩]

/-- The history of America/Ojinaga. -/
def americaOjinaga : List Era :=
  [⟨-25060, .fixed 0, some ⟨1922, 1, .on 1, 25200, .universal⟩⟩,
   ⟨-25200, .fixed 0, some ⟨1927, 6, .on 10, 0, .wall⟩⟩,
   ⟨-21600, .fixed 0, some ⟨1930, 11, .on 15, 0, .wall⟩⟩,
   ⟨-25200, .recurring mexico, some ⟨1932, 4, .on 1, 0, .wall⟩⟩,
   ⟨-21600, .fixed 0, some ⟨1996, 1, .on 1, 0, .wall⟩⟩,
   ⟨-21600, .recurring mexico, some ⟨1998, 1, .on 1, 0, .wall⟩⟩,
   ⟨-21600, .fixed 0, some ⟨1998, 4, .onOrAfter .sun 1, 10800, .wall⟩⟩,
   ⟨-25200, .recurring mexico, some ⟨2010, 1, .on 1, 0, .wall⟩⟩,
   ⟨-25200, .recurring unitedStates, some ⟨2022, 10, .on 30, 7200, .wall⟩⟩,
   ⟨-21600, .fixed 0, some ⟨2022, 11, .on 30, 0, .wall⟩⟩,
   ⟨-21600, .recurring unitedStates, none⟩]

/-- The history of America/Panama. -/
def americaPanama : List Era :=
  [⟨-19088, .fixed 0, some ⟨1890, 1, .on 1, 0, .wall⟩⟩,
   ⟨-19176, .fixed 0, some ⟨1908, 4, .on 22, 0, .wall⟩⟩,
   ⟨-18000, .fixed 0, none⟩]

/-- The history of America/Phoenix. -/
def americaPhoenix : List Era :=
  [⟨-26898, .fixed 0, some ⟨1883, 11, .on 18, 68400, .universal⟩⟩,
   ⟨-25200, .recurring unitedStates, some ⟨1944, 1, .on 1, 60, .wall⟩⟩,
   ⟨-25200, .fixed 0, some ⟨1944, 4, .on 1, 60, .wall⟩⟩,
   ⟨-25200, .recurring unitedStates, some ⟨1944, 10, .on 1, 60, .wall⟩⟩,
   ⟨-25200, .fixed 0, some ⟨1967, 1, .on 1, 0, .wall⟩⟩,
   ⟨-25200, .recurring unitedStates, some ⟨1968, 3, .on 21, 0, .wall⟩⟩,
   ⟨-25200, .fixed 0, none⟩]

/-- The history of America/Port-au-Prince. -/
def americaPortAuPrince : List Era :=
  [⟨-17360, .fixed 0, some ⟨1890, 1, .on 1, 0, .wall⟩⟩,
   ⟨-17340, .fixed 0, some ⟨1917, 1, .on 24, 43200, .wall⟩⟩,
   ⟨-18000, .recurring haiti, none⟩]

/-- The history of America/Puerto_Rico. -/
def americaPuertoRico : List Era :=
  [⟨-15865, .fixed 0, some ⟨1899, 3, .on 28, 43200, .wall⟩⟩,
   ⟨-14400, .fixed 0, some ⟨1942, 5, .on 3, 0, .wall⟩⟩,
   ⟨-14400, .recurring unitedStates, some ⟨1946, 1, .on 1, 0, .wall⟩⟩,
   ⟨-14400, .fixed 0, none⟩]

/-- The history of America/Rankin_Inlet. -/
def americaRankinInlet : List Era :=
  [⟨0, .fixed 0, some ⟨1957, 1, .on 1, 0, .wall⟩⟩,
   ⟨-21600, .recurring northwestTerritories, some ⟨2000, 10, .on 29, 7200, .wall⟩⟩,
   ⟨-18000, .fixed 0, some ⟨2001, 4, .on 1, 10800, .wall⟩⟩,
   ⟨-21600, .recurring canada, none⟩]

/-- The history of America/Regina. -/
def americaRegina : List Era :=
  [⟨-25116, .fixed 0, some ⟨1905, 9, .on 1, 0, .wall⟩⟩,
   ⟨-25200, .recurring regina, some ⟨1960, 4, .last .sun, 7200, .wall⟩⟩,
   ⟨-21600, .fixed 0, none⟩]

/-- The history of America/Resolute. -/
def americaResolute : List Era :=
  [⟨0, .fixed 0, some ⟨1947, 8, .on 31, 0, .wall⟩⟩,
   ⟨-21600, .recurring northwestTerritories, some ⟨2000, 10, .on 29, 7200, .wall⟩⟩,
   ⟨-18000, .fixed 0, some ⟨2001, 4, .on 1, 10800, .wall⟩⟩,
   ⟨-21600, .recurring canada, some ⟨2006, 10, .on 29, 7200, .wall⟩⟩,
   ⟨-18000, .fixed 0, some ⟨2007, 3, .on 11, 10800, .wall⟩⟩,
   ⟨-21600, .recurring canada, none⟩]

/-- The history of America/Santo_Domingo. -/
def americaSantoDomingo : List Era :=
  [⟨-16776, .fixed 0, some ⟨1890, 1, .on 1, 0, .wall⟩⟩,
   ⟨-16800, .fixed 0, some ⟨1933, 4, .on 1, 43200, .wall⟩⟩,
   ⟨-18000, .recurring dominicanRepublic, some ⟨1974, 10, .on 27, 0, .wall⟩⟩,
   ⟨-14400, .fixed 0, some ⟨2000, 10, .on 29, 7200, .wall⟩⟩,
   ⟨-18000, .recurring unitedStates, some ⟨2000, 12, .on 3, 3600, .wall⟩⟩,
   ⟨-14400, .fixed 0, none⟩]

/-- The history of America/Scoresbysund. -/
def americaScoresbysund : List Era :=
  [⟨-5272, .fixed 0, some ⟨1916, 7, .on 28, 0, .wall⟩⟩,
   ⟨-7200, .fixed 0, some ⟨1980, 4, .on 6, 7200, .wall⟩⟩,
   ⟨-7200, .recurring centralEurope, some ⟨1981, 3, .on 29, 0, .wall⟩⟩,
   ⟨-3600, .recurring europeanUnion, some ⟨2024, 3, .on 31, 0, .wall⟩⟩,
   ⟨-7200, .recurring europeanUnion, none⟩]

/-- The history of America/Sitka. -/
def americaSitka : List Era :=
  [⟨53927, .fixed 0, some ⟨1867, 10, .on 19, 55800, .wall⟩⟩,
   ⟨-32473, .fixed 0, some ⟨1900, 8, .on 20, 43200, .wall⟩⟩,
   ⟨-28800, .fixed 0, some ⟨1942, 1, .on 1, 0, .wall⟩⟩,
   ⟨-28800, .recurring unitedStates, some ⟨1946, 1, .on 1, 0, .wall⟩⟩,
   ⟨-28800, .fixed 0, some ⟨1969, 1, .on 1, 0, .wall⟩⟩,
   ⟨-28800, .recurring unitedStates, some ⟨1983, 10, .on 30, 7200, .wall⟩⟩,
   ⟨-32400, .recurring unitedStates, some ⟨1983, 11, .on 30, 0, .wall⟩⟩,
   ⟨-32400, .recurring unitedStates, none⟩]

/-- The history of America/St_Johns. -/
def americaStJohns : List Era :=
  [⟨-12652, .fixed 0, some ⟨1884, 1, .on 1, 0, .wall⟩⟩,
   ⟨-12652, .recurring stJohns, some ⟨1918, 1, .on 1, 0, .wall⟩⟩,
   ⟨-12652, .recurring canada, some ⟨1919, 1, .on 1, 0, .wall⟩⟩,
   ⟨-12652, .recurring stJohns, some ⟨1935, 3, .on 30, 0, .wall⟩⟩,
   ⟨-12600, .recurring stJohns, some ⟨1942, 5, .on 11, 0, .wall⟩⟩,
   ⟨-12600, .recurring canada, some ⟨1946, 1, .on 1, 0, .wall⟩⟩,
   ⟨-12600, .recurring stJohns, some ⟨2011, 11, .on 1, 0, .wall⟩⟩,
   ⟨-12600, .recurring canada, none⟩]

/-- The history of America/Swift_Current. -/
def americaSwiftCurrent : List Era :=
  [⟨-25880, .fixed 0, some ⟨1905, 9, .on 1, 0, .wall⟩⟩,
   ⟨-25200, .recurring canada, some ⟨1946, 4, .last .sun, 7200, .wall⟩⟩,
   ⟨-25200, .recurring regina, some ⟨1950, 1, .on 1, 0, .wall⟩⟩,
   ⟨-25200, .recurring swiftCurrent, some ⟨1972, 4, .last .sun, 7200, .wall⟩⟩,
   ⟨-21600, .fixed 0, none⟩]

/-- The history of America/Tegucigalpa. -/
def americaTegucigalpa : List Era :=
  [⟨-20932, .fixed 0, some ⟨1921, 4, .on 1, 0, .wall⟩⟩,
   ⟨-21600, .recurring honduras, none⟩]

/-- The history of America/Thule. -/
def americaThule : List Era :=
  [⟨-16508, .fixed 0, some ⟨1916, 7, .on 28, 0, .wall⟩⟩,
   ⟨-14400, .recurring thule, none⟩]

/-- The history of America/Tijuana. -/
def americaTijuana : List Era :=
  [⟨-28084, .fixed 0, some ⟨1922, 1, .on 1, 25200, .universal⟩⟩,
   ⟨-25200, .fixed 0, some ⟨1924, 1, .on 1, 0, .wall⟩⟩,
   ⟨-28800, .fixed 0, some ⟨1927, 6, .on 10, 0, .wall⟩⟩,
   ⟨-25200, .fixed 0, some ⟨1930, 11, .on 15, 0, .wall⟩⟩,
   ⟨-28800, .fixed 0, some ⟨1931, 4, .on 1, 0, .wall⟩⟩,
   ⟨-28800, .fixed 3600, some ⟨1931, 9, .on 30, 0, .wall⟩⟩,
   ⟨-28800, .fixed 0, some ⟨1942, 4, .on 24, 0, .wall⟩⟩,
   ⟨-28800, .fixed 3600, some ⟨1945, 8, .on 14, 82800, .universal⟩⟩,
   ⟨-28800, .fixed 3600, some ⟨1945, 11, .on 15, 0, .wall⟩⟩,
   ⟨-28800, .fixed 0, some ⟨1948, 4, .on 5, 0, .wall⟩⟩,
   ⟨-28800, .fixed 3600, some ⟨1949, 1, .on 14, 0, .wall⟩⟩,
   ⟨-28800, .fixed 0, some ⟨1950, 5, .on 1, 0, .wall⟩⟩,
   ⟨-28800, .fixed 3600, some ⟨1950, 9, .on 24, 0, .wall⟩⟩,
   ⟨-28800, .fixed 0, some ⟨1951, 4, .on 29, 7200, .wall⟩⟩,
   ⟨-28800, .fixed 3600, some ⟨1951, 9, .on 30, 7200, .wall⟩⟩,
   ⟨-28800, .fixed 0, some ⟨1952, 4, .on 27, 7200, .wall⟩⟩,
   ⟨-28800, .fixed 3600, some ⟨1952, 9, .on 28, 7200, .wall⟩⟩,
   ⟨-28800, .fixed 0, some ⟨1954, 1, .on 1, 0, .wall⟩⟩,
   ⟨-28800, .recurring california, some ⟨1961, 1, .on 1, 0, .wall⟩⟩,
   ⟨-28800, .fixed 0, some ⟨1976, 1, .on 1, 0, .wall⟩⟩,
   ⟨-28800, .recurring unitedStates, some ⟨1996, 1, .on 1, 0, .wall⟩⟩,
   ⟨-28800, .recurring mexico, some ⟨2001, 1, .on 1, 0, .wall⟩⟩,
   ⟨-28800, .recurring unitedStates, some ⟨2002, 2, .on 20, 0, .wall⟩⟩,
   ⟨-28800, .recurring mexico, some ⟨2010, 1, .on 1, 0, .wall⟩⟩,
   ⟨-28800, .recurring unitedStates, none⟩]

/-- The history of America/Toronto. -/
def americaToronto : List Era :=
  [⟨-19052, .fixed 0, some ⟨1895, 1, .on 1, 0, .wall⟩⟩,
   ⟨-18000, .recurring canada, some ⟨1919, 1, .on 1, 0, .wall⟩⟩,
   ⟨-18000, .recurring toronto, some ⟨1942, 2, .on 9, 7200, .standard⟩⟩,
   ⟨-18000, .recurring canada, some ⟨1946, 1, .on 1, 0, .wall⟩⟩,
   ⟨-18000, .recurring toronto, some ⟨1974, 1, .on 1, 0, .wall⟩⟩,
   ⟨-18000, .recurring canada, none⟩]

/-- The history of America/Vancouver. -/
def americaVancouver : List Era :=
  [⟨-29548, .fixed 0, some ⟨1884, 1, .on 1, 0, .wall⟩⟩,
   ⟨-28800, .recurring vancouver, some ⟨1987, 1, .on 1, 0, .wall⟩⟩,
   ⟨-28800, .recurring canada, none⟩]

/-- The history of America/Whitehorse. -/
def americaWhitehorse : List Era :=
  [⟨-32412, .fixed 0, some ⟨1900, 8, .on 20, 0, .wall⟩⟩,
   ⟨-32400, .recurring northwestTerritories, some ⟨1965, 1, .on 1, 0, .wall⟩⟩,
   ⟨-32400, .recurring yukon, some ⟨1966, 2, .on 27, 0, .wall⟩⟩,
   ⟨-28800, .fixed 0, some ⟨1980, 1, .on 1, 0, .wall⟩⟩,
   ⟨-28800, .recurring canada, some ⟨2020, 11, .on 1, 0, .wall⟩⟩,
   ⟨-25200, .fixed 0, none⟩]

/-- The history of America/Winnipeg. -/
def americaWinnipeg : List Era :=
  [⟨-23316, .fixed 0, some ⟨1887, 7, .on 16, 0, .wall⟩⟩,
   ⟨-21600, .recurring winnipeg, some ⟨2006, 1, .on 1, 0, .wall⟩⟩,
   ⟨-21600, .recurring canada, none⟩]

/-- The history of America/Yakutat. -/
def americaYakutat : List Era :=
  [⟨52865, .fixed 0, some ⟨1867, 10, .on 19, 54738, .wall⟩⟩,
   ⟨-33535, .fixed 0, some ⟨1900, 8, .on 20, 43200, .wall⟩⟩,
   ⟨-32400, .fixed 0, some ⟨1942, 1, .on 1, 0, .wall⟩⟩,
   ⟨-32400, .recurring unitedStates, some ⟨1946, 1, .on 1, 0, .wall⟩⟩,
   ⟨-32400, .fixed 0, some ⟨1969, 1, .on 1, 0, .wall⟩⟩,
   ⟨-32400, .recurring unitedStates, some ⟨1983, 11, .on 30, 0, .wall⟩⟩,
   ⟨-32400, .recurring unitedStates, none⟩]

/-- The zones of North and Central America by name. -/
def northAmericaZones : List (String × List Era) :=
  [("America/Adak", americaAdak),
   ("America/Anchorage", americaAnchorage),
   ("America/Bahia_Banderas", americaBahiaBanderas),
   ("America/Barbados", americaBarbados),
   ("America/Belize", americaBelize),
   ("America/Boise", americaBoise),
   ("America/Cambridge_Bay", americaCambridgeBay),
   ("America/Cancun", americaCancun),
   ("America/Chicago", americaChicago),
   ("America/Chihuahua", americaChihuahua),
   ("America/Ciudad_Juarez", americaCiudadJuarez),
   ("America/Costa_Rica", americaCostaRica),
   ("America/Danmarkshavn", americaDanmarkshavn),
   ("America/Dawson", americaDawson),
   ("America/Dawson_Creek", americaDawsonCreek),
   ("America/Denver", americaDenver),
   ("America/Detroit", americaDetroit),
   ("America/Edmonton", americaEdmonton),
   ("America/El_Salvador", americaElSalvador),
   ("America/Fort_Nelson", americaFortNelson),
   ("America/Glace_Bay", americaGlaceBay),
   ("America/Goose_Bay", americaGooseBay),
   ("America/Grand_Turk", americaGrandTurk),
   ("America/Guatemala", americaGuatemala),
   ("America/Halifax", americaHalifax),
   ("America/Havana", americaHavana),
   ("America/Hermosillo", americaHermosillo),
   ("America/Indiana/Indianapolis", americaIndianaIndianapolis),
   ("America/Indiana/Knox", americaIndianaKnox),
   ("America/Indiana/Marengo", americaIndianaMarengo),
   ("America/Indiana/Petersburg", americaIndianaPetersburg),
   ("America/Indiana/Tell_City", americaIndianaTellCity),
   ("America/Indiana/Vevay", americaIndianaVevay),
   ("America/Indiana/Vincennes", americaIndianaVincennes),
   ("America/Indiana/Winamac", americaIndianaWinamac),
   ("America/Inuvik", americaInuvik),
   ("America/Iqaluit", americaIqaluit),
   ("America/Jamaica", americaJamaica),
   ("America/Juneau", americaJuneau),
   ("America/Kentucky/Louisville", americaKentuckyLouisville),
   ("America/Kentucky/Monticello", americaKentuckyMonticello),
   ("America/Los_Angeles", americaLosAngeles),
   ("America/Managua", americaManagua),
   ("America/Martinique", americaMartinique),
   ("America/Matamoros", americaMatamoros),
   ("America/Mazatlan", americaMazatlan),
   ("America/Menominee", americaMenominee),
   ("America/Merida", americaMerida),
   ("America/Metlakatla", americaMetlakatla),
   ("America/Mexico_City", americaMexicoCity),
   ("America/Miquelon", americaMiquelon),
   ("America/Moncton", americaMoncton),
   ("America/Monterrey", americaMonterrey),
   ("America/New_York", americaNewYork),
   ("America/Nome", americaNome),
   ("America/North_Dakota/Beulah", americaNorthDakotaBeulah),
   ("America/North_Dakota/Center", americaNorthDakotaCenter),
   ("America/North_Dakota/New_Salem", americaNorthDakotaNewSalem),
   ("America/Nuuk", americaNuuk),
   ("America/Ojinaga", americaOjinaga),
   ("America/Panama", americaPanama),
   ("America/Phoenix", americaPhoenix),
   ("America/Port-au-Prince", americaPortAuPrince),
   ("America/Puerto_Rico", americaPuertoRico),
   ("America/Rankin_Inlet", americaRankinInlet),
   ("America/Regina", americaRegina),
   ("America/Resolute", americaResolute),
   ("America/Santo_Domingo", americaSantoDomingo),
   ("America/Scoresbysund", americaScoresbysund),
   ("America/Sitka", americaSitka),
   ("America/St_Johns", americaStJohns),
   ("America/Swift_Current", americaSwiftCurrent),
   ("America/Tegucigalpa", americaTegucigalpa),
   ("America/Thule", americaThule),
   ("America/Tijuana", americaTijuana),
   ("America/Toronto", americaToronto),
   ("America/Vancouver", americaVancouver),
   ("America/Whitehorse", americaWhitehorse),
   ("America/Winnipeg", americaWinnipeg),
   ("America/Yakutat", americaYakutat)]

end Daybook.Zone.Tables
