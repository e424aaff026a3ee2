import Daybook.Zone.Tables.Shared

/-!
# The clocks of Europe

The recurring rules and the histories of the zones of this area, and the list of its zones by name.
-/

namespace Daybook.Zone.Tables

/-! ### Rules -/

/-- The rules of Albania. -/
def albania : List Rule :=
  [⟨1940, 1940, 6, .on 16, 0, .wall, 3600⟩,
   ⟨1942, 1942, 11, .on 2, 10800, .wall, 0⟩,
   ⟨1943, 1943, 3, .on 29, 7200, .wall, 3600⟩,
   ⟨1943, 1943, 4, .on 10, 10800, .wall, 0⟩,
   ⟨1974, 1974, 5, .on 4, 0, .wall, 3600⟩,
   ⟨1974, 1974, 10, .on 2, 0, .wall, 0⟩,
   ⟨1975, 1975, 5, .on 1, 0, .wall, 3600⟩,
   ⟨1975, 1975, 10, .on 2, 0, .wall, 0⟩,
   ⟨1976, 1976, 5, .on 2, 0, .wall, 3600⟩,
   ⟨1976, 1976, 10, .on 3, 0, .wall, 0⟩,
   ⟨1977, 1977, 5, .on 8, 0, .wall, 3600⟩,
   ⟨1977, 1977, 10, .on 2, 0, .wall, 0⟩,
   ⟨1978, 1978, 5, .on 6, 0, .wall, 3600⟩,
   ⟨1978, 1978, 10, .on 1, 0, .wall, 0⟩,
   ⟨1979, 1979, 5, .on 5, 0, .wall, 3600⟩,
   ⟨1979, 1979, 9, .on 30, 0, .wall, 0⟩,
   ⟨1980, 1980, 5, .on 3, 0, .wall, 3600⟩,
   ⟨1980, 1980, 10, .on 4, 0, .wall, 0⟩,
   ⟨1981, 1981, 4, .on 26, 0, .wall, 3600⟩,
   ⟨1981, 1981, 9, .on 27, 0, .wall, 0⟩,
   ⟨1982, 1982, 5, .on 2, 0, .wall, 3600⟩,
   ⟨1982, 1982, 10, .on 3, 0, .wall, 0⟩,
   ⟨1983, 1983, 4, .on 18, 0, .wall, 3600⟩,
   ⟨1983, 1983, 10, .on 1, 0, .wall, 0⟩,
   ⟨1984, 1984, 4, .on 1, 0, .wall, 3600⟩]

/-- The rules of Austria. -/
def austria : List Rule :=
  [⟨1920, 1920, 4, .on 5, 7200, .standard, 3600⟩,
   ⟨1920, 1920, 9, .on 13, 7200, .standard, 0⟩,
   ⟨1946, 1946, 4, .on 14, 7200, .standard, 3600⟩,
   ⟨1946, 1946, 10, .on 7, 7200, .standard, 0⟩,
   ⟨1947, 1948, 10, .onOrAfter .sun 1, 7200, .standard, 0⟩,
   ⟨1947, 1947, 4, .on 6, 7200, .standard, 3600⟩,
   ⟨1948, 1948, 4, .on 18, 7200, .standard, 3600⟩,
   ⟨1980, 1980, 4, .on 6, 0, .wall, 3600⟩,
   ⟨1980, 1980, 9, .on 28, 0, .wall, 0⟩]

/-- The rules of Belgium. -/
def belgium : List Rule :=
  [⟨1918, 1918, 3, .on 9, 0, .standard, 3600⟩,
   ⟨1918, 1919, 10, .onOrAfter .sat 1, 82800, .standard, 0⟩,
   ⟨1919, 1919, 3, .on 1, 82800, .standard, 3600⟩,
   ⟨1920, 1920, 2, .on 14, 82800, .standard, 3600⟩,
   ⟨1920, 1920, 10, .on 23, 82800, .standard, 0⟩,
   ⟨1921, 1921, 3, .on 14, 82800, .standard, 3600⟩,
   ⟨1921, 1921, 10, .on 25, 82800, .standard, 0⟩,
   ⟨1922, 1922, 3, .on 25, 82800, .standard, 3600⟩,
   ⟨1922, 1927, 10, .onOrAfter .sat 1, 82800, .standard, 0⟩,
   ⟨1923, 1923, 4, .on 21, 82800, .standard, 3600⟩,
   ⟨1924, 1924, 3, .on 29, 82800, .standard, 3600⟩,
   ⟨1925, 1925, 4, .on 4, 82800, .standard, 3600⟩,
   ⟨1926, 1926, 4, .on 17, 82800, .standard, 3600⟩,
   ⟨1927, 1927, 4, .on 9, 82800, .standard, 3600⟩,
   ⟨1928, 1928, 4, .on 14, 82800, .standard, 3600⟩,
   ⟨1928, 1938, 10, .onOrAfter .sun 2, 7200, .standard, 0⟩,
   ⟨1929, 1929, 4, .on 21, 7200, .standard, 3600⟩,
   ⟨1930, 1930, 4, .on 13, 7200, .standard, 3600⟩,
   ⟨1931, 1931, 4, .on 19, 7200, .standard, 3600⟩,
   ⟨1932, 1932, 4, .on 3, 7200, .standard, 3600⟩,
   ⟨1933, 1933, 3, .on 26, 7200, .standard, 3600⟩,
   ⟨1934, 1934, 4, .on 8, 7200, .standard, 3600⟩,
   ⟨1935, 1935, 3, .on 31, 7200, .standard, 3600⟩,
   ⟨1936, 1936, 4, .on 19, 7200, .standard, 3600⟩,
   ⟨1937, 1937, 4, .on 4, 7200, .standard, 3600⟩,
   ⟨1938, 1938, 3, .on 27, 7200, .standard, 3600⟩,
   ⟨1939, 1939, 4, .on 16, 7200, .standard, 3600⟩,
   ⟨1939, 1939, 11, .on 19, 7200, .standard, 0⟩,
   ⟨1940, 1940, 2, .on 25, 7200, .standard, 3600⟩,
   ⟨1944, 1944, 9, .on 17, 7200, .standard, 0⟩,
   ⟨1945, 1945, 4, .on 2, 7200, .standard, 3600⟩,
   ⟨1945, 1945, 9, .on 16, 7200, .standard, 0⟩,
   ⟨1946, 1946, 5, .on 19, 7200, .standard, 3600⟩,
   ⟨1946, 1946, 10, .on 7, 7200, .standard, 0⟩]

/-- The rules of Britain. -/
def britain : List Rule :=
  [⟨1916, 1916, 5, .on 21, 7200, .standard, 3600⟩,
   ⟨1916, 1916, 10, .on 1, 7200, .standard, 0⟩,
   ⟨1917, 1917, 4, .on 8, 7200, .standard, 3600⟩,
   ⟨1917, 1917, 9, .on 17, 7200, .standard, 0⟩,
   ⟨1918, 1918, 3, .on 24, 7200, .standard, 3600⟩,
   ⟨1918, 1918, 9, .on 30, 7200, .standard, 0⟩,
   ⟨1919, 1919, 3, .on 30, 7200, .standard, 3600⟩,
   ⟨1919, 1919, 9, .on 29, 7200, .standard, 0⟩,
   ⟨1920, 1920, 3, .on 28, 7200, .standard, 3600⟩,
   ⟨1920, 1920, 10, .on 25, 7200, .standard, 0⟩,
   ⟨1921, 1921, 4, .on 3, 7200, .standard, 3600⟩,
   ⟨1921, 1921, 10, .on 3, 7200, .standard, 0⟩,
   ⟨1922, 1922, 3, .on 26, 7200, .standard, 3600⟩,
   ⟨1922, 1922, 10, .on 8, 7200, .standard, 0⟩,
   ⟨1923, 1923, 4, .onOrAfter .sun 16, 7200, .standard, 3600⟩,
   ⟨1923, 1924, 9, .onOrAfter .sun 16, 7200, .standard, 0⟩,
   ⟨1924, 1924, 4, .onOrAfter .sun 9, 7200, .standard, 3600⟩,
   ⟨1925, 1926, 4, .onOrAfter .sun 16, 7200, .standard, 3600⟩,
   ⟨1925, 1938, 10, .onOrAfter .sun 2, 7200, .standard, 0⟩,
   ⟨1927, 1927, 4, .onOrAfter .sun 9, 7200, .standard, 3600⟩,
   ⟨1928, 1929, 4, .onOrAfter .sun 16, 7200, .standard, 3600⟩,
   ⟨1930, 1930, 4, .onOrAfter .sun 9, 7200, .standard, 3600⟩,
   ⟨1931, 1932, 4, .onOrAfter .sun 16, 7200, .standard, 3600⟩,
   ⟨1933, 1933, 4, .onOrAfter .sun 9, 7200, .standard, 3600⟩,
   ⟨1934, 1934, 4, .onOrAfter .sun 16, 7200, .standard, 3600⟩,
   ⟨1935, 1935, 4, .onOrAfter .sun 9, 7200, .standard, 3600⟩,
   ⟨1936, 1937, 4, .onOrAfter .sun 16, 7200, .standard, 3600⟩,
   ⟨1938, 1938, 4, .onOrAfter .sun 9, 7200, .standard, 3600⟩,
   ⟨1939, 1939, 4, .onOrAfter .sun 16, 7200, .standard, 3600⟩,
   ⟨1939, 1939, 11, .onOrAfter .sun 16, 7200, .standard, 0⟩,
   ⟨1940, 1940, 2, .onOrAfter .sun 23, 7200, .standard, 3600⟩,
   ⟨1941, 1941, 5, .onOrAfter .sun 2, 3600, .standard, 7200⟩,
   ⟨1941, 1943, 8, .onOrAfter .sun 9, 3600, .standard, 3600⟩,
   ⟨1942, 1944, 4, .onOrAfter .sun 2, 3600, .standard, 7200⟩,
   ⟨1944, 1944, 9, .onOrAfter .sun 16, 3600, .standard, 3600⟩,
   ⟨1945, 1945, 4, .onOrAfter .mon 2, 3600, .standard, 7200⟩,
   ⟨1945, 1945, 7, .onOrAfter .sun 9, 3600, .standard, 3600⟩,
   ⟨1945, 1946, 10, .onOrAfter .sun 2, 7200, .standard, 0⟩,
   ⟨1946, 1946, 4, .onOrAfter .sun 9, 7200, .standard, 3600⟩,
   ⟨1947, 1947, 3, .on 16, 7200, .standard, 3600⟩,
   ⟨1947, 1947, 4, .on 13, 3600, .standard, 7200⟩,
   ⟨1947, 1947, 8, .on 10, 3600, .standard, 3600⟩,
   ⟨1947, 1947, 11, .on 2, 7200, .standard, 0⟩,
   ⟨1948, 1948, 3, .on 14, 7200, .standard, 3600⟩,
   ⟨1948, 1948, 10, .on 31, 7200, .standard, 0⟩,
   ⟨1949, 1949, 4, .on 3, 7200, .standard, 3600⟩,
   ⟨1949, 1949, 10, .on 30, 7200, .standard, 0⟩,
   ⟨1950, 1952, 4, .onOrAfter .sun 14, 7200, .standard, 3600⟩,
   ⟨1950, 1952, 10, .onOrAfter .sun 21, 7200, .standard, 0⟩,
   ⟨1953, 1953, 4, .onOrAfter .sun 16, 7200, .standard, 3600⟩,
   ⟨1953, 1960, 10, .onOrAfter .sun 2, 7200, .standard, 0⟩,
   ⟨1954, 1954, 4, .onOrAfter .sun 9, 7200, .standard, 3600⟩,
   ⟨1955, 1956, 4, .onOrAfter .sun 16, 7200, .standard, 3600⟩,
   ⟨1957, 1957, 4, .onOrAfter .sun 9, 7200, .standard, 3600⟩,
   ⟨1958, 1959, 4, .onOrAfter .sun 16, 7200, .standard, 3600⟩,
   ⟨1960, 1960, 4, .onOrAfter .sun 9, 7200, .standard, 3600⟩,
   ⟨1961, 1963, 3, .last .sun, 7200, .standard, 3600⟩,
   ⟨1961, 1968, 10, .onOrAfter .sun 23, 7200, .standard, 0⟩,
   ⟨1964, 1967, 3, .onOrAfter .sun 19, 7200, .standard, 3600⟩,
   ⟨1968, 1968, 2, .on 18, 7200, .standard, 3600⟩,
   ⟨1972, 1980, 3, .onOrAfter .sun 16, 7200, .standard, 3600⟩,
   ⟨1972, 1980, 10, .onOrAfter .sun 23, 7200, .standard, 0⟩,
   ⟨1981, 1995, 3, .last .sun, 3600, .universal, 3600⟩,
   ⟨1981, 1989, 10, .onOrAfter .sun 23, 3600, .universal, 0⟩,
   ⟨1990, 1995, 10, .onOrAfter .sun 22, 3600, .universal, 0⟩]

/-- The rules of Bulgaria. -/
def bulgaria : List Rule :=
  [⟨1979, 1979, 3, .on 31, 82800, .wall, 3600⟩,
   ⟨1979, 1979, 10, .on 1, 3600, .wall, 0⟩,
   ⟨1980, 1982, 4, .onOrAfter .sat 1, 82800, .wall, 3600⟩,
   ⟨1980, 1980, 9, .on 29, 3600, .wall, 0⟩,
   ⟨1981, 1981, 9, .on 27, 7200, .wall, 0⟩]

/-- The rules of Czechia. -/
def czechia : List Rule :=
  [⟨1945, 1945, 4, .onOrAfter .mon 1, 7200, .standard, 3600⟩,
   ⟨1945, 1945, 10, .on 1, 7200, .standard, 0⟩,
   ⟨1946, 1946, 5, .on 6, 7200, .standard, 3600⟩,
   ⟨1946, 1949, 10, .onOrAfter .sun 1, 7200, .standard, 0⟩,
   ⟨1947, 1948, 4, .onOrAfter .sun 15, 7200, .standard, 3600⟩,
   ⟨1949, 1949, 4, .on 9, 7200, .standard, 3600⟩]

/-- The rules of Finland. -/
def finland : List Rule :=
  [⟨1942, 1942, 4, .on 2, 86400, .wall, 3600⟩,
   ⟨1942, 1942, 10, .on 4, 3600, .wall, 0⟩,
   ⟨1981, 1982, 3, .last .sun, 7200, .wall, 3600⟩,
   ⟨1981, 1982, 9, .last .sun, 10800, .wall, 0⟩]

/-- The rules of France. -/
def france : List Rule :=
  [⟨1916, 1916, 6, .on 14, 82800, .standard, 3600⟩,
   ⟨1916, 1919, 10, .onOrAfter .sun 1, 82800, .standard, 0⟩,
   ⟨1917, 1917, 3, .on 24, 82800, .standard, 3600⟩,
   ⟨1918, 1918, 3, .on 9, 82800, .standard, 3600⟩,
   ⟨1919, 1919, 3, .on 1, 82800, .standard, 3600⟩,
   ⟨1920, 1920, 2, .on 14, 82800, .standard, 3600⟩,
   ⟨1920, 1920, 10, .on 23, 82800, .standard, 0⟩,
   ⟨1921, 1921, 3, .on 14, 82800, .standard, 3600⟩,
   ⟨1921, 1921, 10, .on 25, 82800, .standard, 0⟩,
   ⟨1922, 1922, 3, .on 25, 82800, .standard, 3600⟩,
   ⟨1922, 1938, 10, .onOrAfter .sat 1, 82800, .standard, 0⟩,
   ⟨1923, 1923, 5, .on 26, 82800, .standard, 3600⟩,
   ⟨1924, 1924, 3, .on 29, 82800, .standard, 3600⟩,
   ⟨1925, 1925, 4, .on 4, 82800, .standard, 3600⟩,
   ⟨1926, 1926, 4, .on 17, 82800, .standard, 3600⟩,
   ⟨1927, 1927, 4, .on 9, 82800, .standard, 3600⟩,
   ⟨1928, 1928, 4, .on 14, 82800, .standard, 3600⟩,
   ⟨1929, 1929, 4, .on 20, 82800, .standard, 3600⟩,
   ⟨1930, 1930, 4, .on 12, 82800, .standard, 3600⟩,
   ⟨1931, 1931, 4, .on 18, 82800, .standard, 3600⟩,
   ⟨1932, 1932, 4, .on 2, 82800, .standard, 3600⟩,
   ⟨1933, 1933, 3, .on 25, 82800, .standard, 3600⟩,
   ⟨1934, 1934, 4, .on 7, 82800, .standard, 3600⟩,
   ⟨1935, 1935, 3, .on 30, 82800, .standard, 3600⟩,
   ⟨1936, 1936, 4, .on 18, 82800, .standard, 3600⟩,
   ⟨1937, 1937, 4, .on 3, 82800, .standard, 3600⟩,
   ⟨1938, 1938, 3, .on 26, 82800, .standard, 3600⟩,
   ⟨1939, 1939, 4, .on 15, 82800, .standard, 3600⟩,
   ⟨1939, 1939, 11, .on 18, 82800, .standard, 0⟩,
   ⟨1940, 1940, 2, .on 25, 7200, .wall, 3600⟩,
   ⟨1941, 1941, 5, .on 5, 0, .wall, 7200⟩,
   ⟨1941, 1941, 10, .on 6, 0, .wall, 3600⟩,
   ⟨1942, 1942, 3, .on 9, 0, .wall, 7200⟩,
   ⟨1942, 1942, 11, .on 2, 10800, .wall, 3600⟩,
   ⟨1943, 1943, 3, .on 29, 7200, .wall, 7200⟩,
   ⟨1943, 1943, 10, .on 4, 10800, .wall, 3600⟩,
   ⟨1944, 1944, 4, .on 3, 7200, .wall, 7200⟩,
   ⟨1944, 1944, 10, .on 8, 3600, .wall, 3600⟩,
   ⟨1945, 1945, 4, .on 2, 7200, .wall, 7200⟩,
   ⟨1945, 1945, 9, .on 16, 10800, .wall, 0⟩,
   ⟨1976, 1976, 3, .on 28, 3600, .wall, 3600⟩,
   ⟨1976, 1976, 9, .on 26, 3600, .wall, 0⟩]

/-- The rules of Germany. -/
def germany : List Rule :=
  [⟨1946, 1946, 4, .on 14, 7200, .standard, 3600⟩,
   ⟨1946, 1946, 10, .on 7, 7200, .standard, 0⟩,
   ⟨1947, 1949, 10, .onOrAfter .sun 1, 7200, .standard, 0⟩,
   ⟨1947, 1947, 4, .on 6, 10800, .standard, 3600⟩,
   ⟨1947, 1947, 5, .on 11, 7200, .standard, 7200⟩,
   ⟨1947, 1947, 6, .on 29, 10800, .wall, 3600⟩,
   ⟨1948, 1948, 4, .on 18, 7200, .standard, 3600⟩,
   ⟨1949, 1949, 4, .on 10, 7200, .standard, 3600⟩]

/-- The rules of Greece. -/
def greece : List Rule :=
  [⟨1932, 1932, 7, .on 7, 0, .wall, 3600⟩,
   ⟨1932, 1932, 9, .on 1, 0, .wall, 0⟩,
   ⟨1941, 1941, 4, .on 7, 0, .wall, 3600⟩,
   ⟨1942, 1942, 11, .on 2, 10800, .wall, 0⟩,
   ⟨1943, 1943, 3, .on 30, 0, .wall, 3600⟩,
   ⟨1943, 1943, 10, .on 4, 0, .wall, 0⟩,
   ⟨1952, 1952, 7, .on 1, 0, .wall, 3600⟩,
   ⟨1952, 1952, 11, .on 2, 0, .wall, 0⟩,
   ⟨1975, 1975, 4, .on 12, 0, .standard, 3600⟩,
   ⟨1975, 1975, 11, .on 26, 0, .standard, 0⟩,
   ⟨1976, 1976, 4, .on 11, 7200, .standard, 3600⟩,
   ⟨1976, 1976, 10, .on 10, 7200, .standard, 0⟩,
   ⟨1977, 1978, 4, .onOrAfter .sun 1, 7200, .standard, 3600⟩,
   ⟨1977, 1977, 9, .on 26, 7200, .standard, 0⟩,
   ⟨1978, 1978, 9, .on 24, 14400, .wall, 0⟩,
   ⟨1979, 1979, 4, .on 1, 32400, .wall, 3600⟩,
   ⟨1979, 1979, 9, .on 29, 7200, .wall, 0⟩,
   ⟨1980, 1980, 4, .on 1, 0, .wall, 3600⟩,
   ⟨1980, 1980, 9, .on 28, 0, .wall, 0⟩]

/-- The rules of Hungary. -/
def hungary : List Rule :=
  [⟨1918, 1919, 4, .on 15, 7200, .wall, 3600⟩,
   ⟨1918, 1920, 9, .onOrAfter .mon 15, 10800, .wall, 0⟩,
   ⟨1920, 1920, 4, .on 5, 7200, .wall, 3600⟩,
   ⟨1945, 1945, 5, .on 1, 82800, .wall, 3600⟩,
   ⟨1945, 1945, 11, .on 1, 3600, .wall, 0⟩,
   ⟨1946, 1946, 3, .on 31, 7200, .standard, 3600⟩,
   ⟨1946, 1946, 10, .on 7, 7200, .wall, 0⟩,
   ⟨1947, 1949, 4, .onOrAfter .sun 4, 7200, .standard, 3600⟩,
   ⟨1947, 1949, 10, .onOrAfter .sun 1, 7200, .standard, 0⟩,
   ⟨1954, 1954, 5, .on 23, 0, .wall, 3600⟩,
   ⟨1954, 1954, 10, .on 3, 0, .wall, 0⟩,
   ⟨1955, 1955, 5, .on 22, 7200, .wall, 3600⟩,
   ⟨1955, 1955, 10, .on 2, 10800, .wall, 0⟩,
   ⟨1956, 1957, 6, .onOrAfter .sun 1, 7200, .wall, 3600⟩,
   ⟨1956, 1957, 9, .last .sun, 10800, .wall, 0⟩,
   ⟨1980, 1980, 4, .on 6, 0, .wall, 3600⟩,
   ⟨1980, 1980, 9, .on 28, 3600, .wall, 0⟩,
   ⟨1981, 1983, 3, .last .sun, 0, .wall, 3600⟩,
   ⟨1981, 1983, 9, .last .sun, 3600, .wall, 0⟩]

/-- The rules of Ireland. -/
def ireland : List Rule :=
  [⟨1971, 1971, 10, .on 31, 7200, .universal, -3600⟩,
   ⟨1972, 1980, 3, .onOrAfter .sun 16, 7200, .universal, 0⟩,
   ⟨1972, 1980, 10, .onOrAfter .sun 23, 7200, .universal, -3600⟩,
   ⟨1981, lastYear, 3, .last .sun, 3600, .universal, 0⟩,
   ⟨1981, 1989, 10, .onOrAfter .sun 23, 3600, .universal, -3600⟩,
   ⟨1990, 1995, 10, .onOrAfter .sun 22, 3600, .universal, -3600⟩,
   ⟨1996, lastYear, 10, .last .sun, 3600, .universal, -3600⟩]

/-- The rules of Italy. -/
def italy : List Rule :=
  [⟨1916, 1916, 6, .on 3, 86400, .wall, 3600⟩,
   ⟨1916, 1917, 9, .on 30, 86400, .wall, 0⟩,
   ⟨1917, 1917, 3, .on 31, 86400, .wall, 3600⟩,
   ⟨1918, 1918, 3, .on 9, 86400, .wall, 3600⟩,
   ⟨1918, 1918, 10, .on 6, 86400, .wall, 0⟩,
   ⟨1919, 1919, 3, .on 1, 86400, .wall, 3600⟩,
   ⟨1919, 1919, 10, .on 4, 86400, .wall, 0⟩,
   ⟨1920, 1920, 3, .on 20, 86400, .wall, 3600⟩,
   ⟨1920, 1920, 9, .on 18, 86400, .wall, 0⟩,
   ⟨1940, 1940, 6, .on 14, 86400, .wall, 3600⟩,
   ⟨1942, 1942, 11, .on 2, 7200, .standard, 0⟩,
   ⟨1943, 1943, 3, .on 29, 7200, .standard, 3600⟩,
   ⟨1943, 1943, 10, .on 4, 7200, .standard, 0⟩,
   ⟨1944, 1944, 4, .on 2, 7200, .standard, 3600⟩,
   ⟨1944, 1944, 9, .on 17, 7200, .standard, 0⟩,
   ⟨1945, 1945, 4, .on 2, 7200, .wall, 3600⟩,
   ⟨1945, 1945, 9, .on 15, 3600, .wall, 0⟩,
   ⟨1946, 1946, 3, .on 17, 7200, .standard, 3600⟩,
   ⟨1946, 1946, 10, .on 6, 7200, .standard, 0⟩,
   ⟨1947, 1947, 3, .on 16, 0, .standard, 3600⟩,
   ⟨1947, 1947, 10, .on 5, 0, .standard, 0⟩,
   ⟨1948, 1948, 2, .on 29, 7200, .standard, 3600⟩,
   ⟨1948, 1948, 10, .on 3, 7200, .standard, 0⟩,
   ⟨1966, 1968, 5, .onOrAfter .sun 22, 0, .standard, 3600⟩,
   ⟨1966, 1966, 9, .on 24, 86400, .wall, 0⟩,
   ⟨1967, 1969, 9, .onOrAfter .sun 22, 0, .standard, 0⟩,
   ⟨1969, 1969, 6, .on 1, 0, .standard, 3600⟩,
   ⟨1970, 1970, 5, .on 31, 0, .standard, 3600⟩,
   ⟨1970, 1970, 9, .last .sun, 0, .standard, 0⟩,
   ⟨1971, 1972, 5, .onOrAfter .sun 22, 0, .standard, 3600⟩,
   ⟨1971, 1971, 9, .last .sun, 0, .standard, 0⟩,
   ⟨1972, 1972, 10, .on 1, 0, .standard, 0⟩,
   ⟨1973, 1973, 6, .on 3, 0, .standard, 3600⟩,
   ⟨1973, 1974, 9, .last .sun, 0, .standard, 0⟩,
   ⟨1974, 1974, 5, .on 26, 0, .standard, 3600⟩,
   ⟨1975, 1975, 6, .on 1, 0, .standard, 3600⟩,
   ⟨1975, 1977, 9, .last .sun, 0, .standard, 0⟩,
   ⟨1976, 1976, 5, .on 30, 0, .standard, 3600⟩,
   ⟨1977, 1979, 5, .onOrAfter .sun 22, 0, .standard, 3600⟩,
   ⟨1978, 1978, 10, .on 1, 0, .standard, 0⟩,
   ⟨1979, 1979, 9, .on 30, 0, .standard, 0⟩]

/-- The rules of Latvia. -/
def latvia : List Rule :=
  [⟨1989, 1996, 3, .last .sun, 7200, .standard, 3600⟩,
   ⟨1989, 1996, 9, .last .sun, 7200, .standard, 0⟩]

/-- The rules of Malta. -/
def malta : List Rule :=
  [⟨1973, 1973, 3, .on 31, 0, .standard, 3600⟩,
   ⟨1973, 1973, 9, .on 29, 0, .standard, 0⟩,
   ⟨1974, 1974, 4, .on 21, 0, .standard, 3600⟩,
   ⟨1974, 1974, 9, .on 16, 0, .standard, 0⟩,
   ⟨1975, 1979, 4, .onOrAfter .sun 15, 7200, .wall, 3600⟩,
   ⟨1975, 1980, 9, .onOrAfter .sun 15, 7200, .wall, 0⟩,
   ⟨1980, 1980, 3, .on 31, 7200, .wall, 3600⟩]

/-- The rules of Moldova. -/
def moldova : List Rule :=
  [⟨1997, lastYear, 3, .last .sun, 7200, .wall, 3600⟩,
   ⟨1997, lastYear, 10, .last .sun, 10800, .wall, 0⟩]

/-- The rules of Poland. -/
def poland : List Rule :=
  [⟨1918, 1919, 9, .on 16, 7200, .standard, 0⟩,
   ⟨1919, 1919, 4, .on 15, 7200, .standard, 3600⟩,
   ⟨1944, 1944, 4, .on 3, 7200, .standard, 3600⟩,
   ⟨1944, 1944, 10, .on 4, 7200, .wall, 0⟩,
   ⟨1945, 1945, 4, .on 29, 0, .wall, 3600⟩,
   ⟨1945, 1945, 11, .on 1, 0, .wall, 0⟩,
   ⟨1946, 1946, 4, .on 14, 0, .standard, 3600⟩,
   ⟨1946, 1946, 10, .on 7, 7200, .standard, 0⟩,
   ⟨1947, 1947, 5, .on 4, 7200, .standard, 3600⟩,
   ⟨1947, 1949, 10, .onOrAfter .sun 1, 7200, .standard, 0⟩,
   ⟨1948, 1948, 4, .on 18, 7200, .standard, 3600⟩,
   ⟨1949, 1949, 4, .on 10, 7200, .standard, 3600⟩,
   ⟨1957, 1957, 6, .on 2, 3600, .standard, 3600⟩,
   ⟨1957, 1958, 9, .last .sun, 3600, .standard, 0⟩,
   ⟨1958, 1958, 3, .on 30, 3600, .standard, 3600⟩,
   ⟨1959, 1959, 5, .on 31, 3600, .standard, 3600⟩,
   ⟨1959, 1961, 10, .onOrAfter .sun 1, 3600, .standard, 0⟩,
   ⟨1960, 1960, 4, .on 3, 3600, .standard, 3600⟩,
   ⟨1961, 1964, 5, .last .sun, 3600, .standard, 3600⟩,
   ⟨1962, 1964, 9, .last .sun, 3600, .standard, 0⟩]

/-- The rules of Romania. -/
def romania : List Rule :=
  [⟨1932, 1932, 5, .on 21, 0, .standard, 3600⟩,
   ⟨1932, 1939, 10, .onOrAfter .sun 1, 0, .standard, 0⟩,
   ⟨1933, 1939, 4, .onOrAfter .sun 2, 0, .standard, 3600⟩,
   ⟨1979, 1979, 5, .on 27, 0, .wall, 3600⟩,
   ⟨1979, 1979, 9, .last .sun, 0, .wall, 0⟩,
   ⟨1980, 1980, 4, .on 5, 82800, .wall, 3600⟩,
   ⟨1980, 1980, 9, .last .sun, 3600, .wall, 0⟩,
   ⟨1991, 1993, 3, .last .sun, 0, .standard, 3600⟩,
   ⟨1991, 1993, 9, .last .sun, 0, .standard, 0⟩]

/-- The rules of Soviet Zone. -/
def sovietZone : List Rule :=
  [⟨1945, 1945, 5, .on 24, 7200, .wall, 7200⟩,
   ⟨1945, 1945, 9, .on 24, 10800, .wall, 3600⟩,
   ⟨1945, 1945, 11, .on 18, 7200, .standard, 0⟩]

/-- The rules of Switzerland. -/
def switzerland : List Rule :=
  [⟨1941, 1942, 5, .onOrAfter .mon 1, 3600, .wall, 3600⟩,
   ⟨1941, 1942, 10, .onOrAfter .mon 1, 7200, .wall, 0⟩]

/-- The rules of Turkey. -/
def turkey : List Rule :=
  [⟨1916, 1916, 5, .on 1, 0, .wall, 3600⟩,
   ⟨1916, 1916, 10, .on 1, 0, .wall, 0⟩,
   ⟨1920, 1920, 3, .on 28, 0, .wall, 3600⟩,
   ⟨1920, 1920, 10, .on 25, 0, .wall, 0⟩,
   ⟨1921, 1921, 4, .on 3, 0, .wall, 3600⟩,
   ⟨1921, 1921, 10, .on 3, 0, .wall, 0⟩,
   ⟨1922, 1922, 3, .on 26, 0, .wall, 3600⟩,
   ⟨1922, 1922, 10, .on 8, 0, .wall, 0⟩,
   ⟨1924, 1924, 5, .on 13, 0, .wall, 3600⟩,
   ⟨1924, 1925, 10, .on 1, 0, .wall, 0⟩,
   ⟨1925, 1925, 5, .on 1, 0, .wall, 3600⟩,
   ⟨1940, 1940, 7, .on 1, 0, .wall, 3600⟩,
   ⟨1940, 1940, 10, .on 6, 0, .wall, 0⟩,
   ⟨1940, 1940, 12, .on 1, 0, .wall, 3600⟩,
   ⟨1941, 1941, 9, .on 21, 0, .wall, 0⟩,
   ⟨1942, 1942, 4, .on 1, 0, .wall, 3600⟩,
   ⟨1945, 1945, 10, .on 8, 0, .wall, 0⟩,
   ⟨1946, 1946, 6, .on 1, 0, .wall, 3600⟩,
   ⟨1946, 1946, 10, .on 1, 0, .wall, 0⟩,
   ⟨1947, 1948, 4, .onOrAfter .sun 16, 0, .wall, 3600⟩,
   ⟨1947, 1951, 10, .onOrAfter .sun 2, 0, .wall, 0⟩,
   ⟨1949, 1949, 4, .on 10, 0, .wall, 3600⟩,
   ⟨1950, 1950, 4, .on 16, 0, .wall, 3600⟩,
   ⟨1951, 1951, 4, .on 22, 0, .wall, 3600⟩,
   ⟨1962, 1962, 7, .on 15, 0, .wall, 3600⟩,
   ⟨1963, 1963, 10, .on 30, 0, .wall, 0⟩,
   ⟨1964, 1964, 5, .on 15, 0, .wall, 3600⟩,
   ⟨1964, 1964, 10, .on 1, 0, .wall, 0⟩,
   ⟨1973, 1973, 6, .on 3, 3600, .wall, 3600⟩,
   ⟨1973, 1976, 10, .onOrAfter .sun 31, 7200, .wall, 0⟩,
   ⟨1974, 1974, 3, .on 31, 7200, .wall, 3600⟩,
   ⟨1975, 1975, 3, .on 22, 7200, .wall, 3600⟩,
   ⟨1976, 1976, 3, .on 21, 7200, .wall, 3600⟩,
   ⟨1977, 1978, 4, .onOrAfter .sun 1, 7200, .wall, 3600⟩,
   ⟨1977, 1978, 10, .onOrAfter .sun 15, 7200, .wall, 0⟩,
   ⟨1978, 1978, 6, .on 29, 0, .wall, 0⟩,
   ⟨1983, 1983, 7, .on 31, 7200, .wall, 3600⟩,
   ⟨1983, 1983, 10, .on 2, 7200, .wall, 0⟩,
   ⟨1985, 1985, 4, .on 20, 3600, .standard, 3600⟩,
   ⟨1985, 1985, 9, .on 28, 3600, .standard, 0⟩,
   ⟨1986, 1993, 3, .last .sun, 3600, .standard, 3600⟩,
   ⟨1986, 1995, 9, .last .sun, 3600, .standard, 0⟩,
   ⟨1994, 1994, 3, .on 20, 3600, .standard, 3600⟩,
   ⟨1995, 2006, 3, .last .sun, 3600, .standard, 3600⟩,
   ⟨1996, 2006, 10, .last .sun, 3600, .standard, 0⟩]

/-- The rules of Western Europe. -/
def westernEurope : List Rule :=
  [⟨1977, 1980, 4, .onOrAfter .sun 1, 3600, .standard, 3600⟩,
   ⟨1977, 1977, 9, .last .sun, 3600, .standard, 0⟩,
   ⟨1978, 1978, 10, .on 1, 3600, .standard, 0⟩,
   ⟨1979, 1995, 9, .last .sun, 3600, .standard, 0⟩,
   ⟨1981, lastYear, 3, .last .sun, 3600, .standard, 3600⟩,
   ⟨1996, lastYear, 10, .last .sun, 3600, .standard, 0⟩]

/-! ### Histories -/

/-- The history of Europe/Andorra. -/
def europeAndorra : List Era :=
  [⟨364, .fixed 0, some ⟨1901, 1, .on 1, 0, .wall⟩⟩,
   ⟨0, .fixed 0, some ⟨1946, 9, .on 30, 0, .wall⟩⟩,
   ⟨3600, .fixed 0, some ⟨1985, 3, .on 31, 7200, .wall⟩⟩,
   ⟨3600, .recurring europeanUnion, none⟩]

/-- The history of Europe/Astrakhan. -/
def europeAstrakhan : List Era :=
  [⟨11532, .fixed 0, some ⟨1924, 5, .on 1, 0, .wall⟩⟩,
   ⟨10800, .fixed 0, some ⟨1930, 6, .on 21, 0, .wall⟩⟩,
   ⟨14400, .recurring russia, some ⟨1989, 3, .on 26, 7200, .standard⟩⟩,
   ⟨10800, .recurring russia, some ⟨1991, 3, .on 31, 7200, .standard⟩⟩,
   ⟨14400, .fixed 0, some ⟨1992, 3, .on 29, 7200, .standard⟩⟩,
   ⟨10800, .recurring russia, some ⟨2011, 3, .on 27, 7200, .standard⟩⟩,
   ⟨14400, .fixed 0, some ⟨2014, 10, .on 26, 7200, .standard⟩⟩,
   ⟨10800, .fixed 0, some ⟨2016, 3, .on 27, 7200, .standard⟩⟩,
   ⟨14400, .fixed 0, none⟩]

/-- The history of Europe/Athens. -/
def europeAthens : List Era :=
  [⟨5692, .fixed 0, some ⟨1895, 9, .on 14, 0, .wall⟩⟩,
   ⟨5692, .fixed 0, some ⟨1916, 7, .on 28, 60, .wall⟩⟩,
   ⟨7200, .recurring greece, some ⟨1941, 4, .on 30, 0, .wall⟩⟩,
   ⟨3600, .recurring greece, some ⟨1944, 4, .on 4, 0, .wall⟩⟩,
   ⟨7200, .recurring greece, some ⟨1981, 1, .on 1, 0, .wall⟩⟩,
   ⟨7200, .recurring europeanUnion, none⟩]

/-- The history of Europe/Belgrade. -/
def europeBelgrade : List Era :=
  [⟨4920, .fixed 0, some ⟨1884, 1, .on 1, 0, .wall⟩⟩,
   ⟨3600, .fixed 0, some ⟨1941, 4, .on 18, 82800, .wall⟩⟩,
   ⟨3600, .recurring centralEurope, some ⟨1945, 1, .on 1, 0, .wall⟩⟩,
   ⟨3600, .fixed 0, some ⟨1945, 5, .on 8, 7200, .standard⟩⟩,
   ⟨3600, .fixed 3600, some ⟨1945, 9, .on 16, 7200, .standard⟩⟩,
   ⟨3600, .fixed 0, some ⟨1982, 11, .on 27, 0, .wall⟩⟩,
   ⟨3600, .recurring europeanUnion, none⟩]

/-- The history of Europe/Berlin. -/
def europeBerlin : List Era :=
  [⟨3208, .fixed 0, some ⟨1893, 4, .on 1, 0, .wall⟩⟩,
   ⟨3600, .recurring centralEurope, some ⟨1945, 5, .on 24, 7200, .wall⟩⟩,
   ⟨3600, .recurring sovietZone, some ⟨1946, 1, .on 1, 0, .wall⟩⟩,
   ⟨3600, .recurring germany, some ⟨1980, 1, .on 1, 0, .wall⟩⟩,
   ⟨3600, .recurring europeanUnion, none⟩]

/-- The history of Europe/Brussels. -/
def europeBrussels : List Era :=
  [⟨1050, .fixed 0, some ⟨1880, 1, .on 1, 0, .wall⟩⟩,
   ⟨1050, .fixed 0, some ⟨1892, 5, .on 1, 1050, .wall⟩⟩,
   ⟨0, .fixed 0, some ⟨1914, 11, .on 8, 0, .wall⟩⟩,
   ⟨3600, .fixed 0, some ⟨1916, 5, .on 1, 0, .wall⟩⟩,
   ⟨3600, .recurring centralEurope, some ⟨1918, 11, .on 11, 39600, .universal⟩⟩,
   ⟨0, .recurring belgium, some ⟨1940, 5, .on 20, 7200, .standard⟩⟩,
   ⟨3600, .recurring centralEurope, some ⟨1944, 9, .on 3, 0, .wall⟩⟩,
   ⟨3600, .recurring belgium, some ⟨1977, 1, .on 1, 0, .wall⟩⟩,
   ⟨3600, .recurring europeanUnion, none⟩]

/-- The history of Europe/Bucharest. -/
def europeBucharest : List Era :=
  [⟨6264, .fixed 0, some ⟨1891, 10, .on 1, 0, .wall⟩⟩,
   ⟨6264, .fixed 0, some ⟨1931, 7, .on 24, 0, .wall⟩⟩,
   ⟨7200, .recurring romania, some ⟨1981, 3, .on 29, 7200, .standard⟩⟩,
   ⟨7200, .recurring centralEurope, some ⟨1991, 1, .on 1, 0, .wall⟩⟩,
   ⟨7200, .recurring romania, some ⟨1994, 1, .on 1, 0, .wall⟩⟩,
   ⟨7200, .recurring easternEurope, some ⟨1997, 1, .on 1, 0, .wall⟩⟩,
   ⟨7200, .recurring europeanUnion, none⟩]

/-- The history of Europe/Budapest. -/
def europeBudapest : List Era :=
  [⟨4580, .fixed 0, some ⟨1890, 11, .on 1, 0, .wall⟩⟩,
   ⟨3600, .recurring centralEurope, some ⟨1918, 1, .on 1, 0, .wall⟩⟩,
   ⟨3600, .recurring hungary, some ⟨1941, 4, .on 7, 82800, .wall⟩⟩,
   ⟨3600, .recurring centralEurope, some ⟨1945, 1, .on 1, 0, .wall⟩⟩,
   ⟨3600, .recurring hungary, some ⟨1984, 1, .on 1, 0, .wall⟩⟩,
   ⟨3600, .recurring europeanUnion, none⟩]

/-- The history of Europe/Chisinau. -/
def europeChisinau : List Era :=
  [⟨6920, .fixed 0, some ⟨1880, 1, .on 1, 0, .wall⟩⟩,
   ⟨6900, .fixed 0, some ⟨1918, 2, .on 15, 0, .wall⟩⟩,
   ⟨6264, .fixed 0, some ⟨1931, 7, .on 24, 0, .wall⟩⟩,
   ⟨7200, .recurring romania, some ⟨1940, 8, .on 15, 0, .wall⟩⟩,
   ⟨7200, .fixed 3600, some ⟨1941, 7, .on 17, 0, .wall⟩⟩,
   ⟨3600, .recurring centralEurope, some ⟨1944, 8, .on 24, 0, .wall⟩⟩,
   ⟨10800, .recurring russia, some ⟨1990, 5, .on 6, 7200, .wall⟩⟩,
   ⟨7200, .recurring russia, some ⟨1992, 1, .on 1, 0, .wall⟩⟩,
   ⟨7200, .recurring easternEurope, some ⟨1997, 1, .on 1, 0, .wall⟩⟩,
   ⟨7200, .recurring moldova, none⟩]

/-- The history of Europe/Dublin. -/
def europeDublin : List Era :=
  [⟨-1521, .fixed 0, some ⟨1880, 8, .on 2, 0, .wall⟩⟩,
   ⟨-1521, .fixed 0, some ⟨1916, 5, .on 21, 7200, .standard⟩⟩,
   ⟨-1521, .fixed 3600, some ⟨1916, 10, .on 1, 7200, .standard⟩⟩,
   ⟨0, .recurring britain, some ⟨1921, 12, .on 6, 0, .wall⟩⟩,
   ⟨0, .recurring britain, some ⟨1940, 2, .on 25, 7200, .standard⟩⟩,
   ⟨0, .fixed 3600, some ⟨1946, 10, .on 6, 7200, .standard⟩⟩,
   ⟨0, .fixed 0, some ⟨1947, 3, .on 16, 7200, .standard⟩⟩,
   ⟨0, .fixed 3600, some ⟨1947, 11, .on 2, 7200, .standard⟩⟩,
   ⟨0, .fixed 0, some ⟨1948, 4, .on 18, 7200, .standard⟩⟩,
   ⟨0, .recurring britain, some ⟨1968, 10, .on 27, 3600, .standard⟩⟩,
   ⟨3600, .recurring ireland, none⟩]

/-- The history of Europe/Gibraltar. -/
def europeGibraltar : List Era :=
  [⟨-1284, .fixed 0, some ⟨1880, 8, .on 2, 0, .wall⟩⟩,
   ⟨0, .recurring britain, some ⟨1957, 4, .on 14, 7200, .wall⟩⟩,
   ⟨3600, .fixed 0, some ⟨1982, 1, .on 1, 0, .wall⟩⟩,
   ⟨3600, .recurring europeanUnion, none⟩]

/-- The history of Europe/Helsinki. -/
def europeHelsinki : List Era :=
  [⟨5989, .fixed 0, some ⟨1878, 5, .on 31, 0, .wall⟩⟩,
   ⟨5989, .fixed 0, some ⟨1921, 5, .on 1, 0, .wall⟩⟩,
   ⟨7200, .recurring finland, some ⟨1983, 1, .on 1, 0, .wall⟩⟩,
   ⟨7200, .recurring europeanUnion, none⟩]

/-- The history of Europe/Istanbul. -/
def europeIstanbul : List Era :=
  [⟨6952, .fixed 0, some ⟨1880, 1, .on 1, 0, .wall⟩⟩,
   ⟨7016, .fixed 0, some ⟨1910, 10, .on 1, 0, .wall⟩⟩,
   ⟨7200, .recurring turkey, some ⟨1978, 6, .on 29, 0, .wall⟩⟩,
   ⟨10800, .recurring turkey, some ⟨1984, 11, .on 1, 7200, .wall⟩⟩,
   ⟨7200, .recurring turkey, some ⟨2007, 1, .on 1, 0, .wall⟩⟩,
   ⟨7200, .recurring europeanUnion, some ⟨2011, 3, .on 27, 3600, .universal⟩⟩,
   ⟨7200, .fixed 0, some ⟨2011, 3, .on 28, 3600, .universal⟩⟩,
   ⟨7200, .recurring europeanUnion, some ⟨2014, 3, .on 30, 3600, .universal⟩⟩,
   ⟨7200, .fixed 0, some ⟨2014, 3, .on 31, 3600, .universal⟩⟩,
   ⟨7200, .recurring europeanUnion, some ⟨2015, 10, .on 25, 3600, .universal⟩⟩,
   ⟨7200, .fixed 3600, some ⟨2015, 11, .on 8, 3600, .universal⟩⟩,
   ⟨7200, .recurring europeanUnion, some ⟨2016, 9, .on 7, 0, .wall⟩⟩,
   ⟨10800, .fixed 0, none⟩]

/-- The history of Europe/Kaliningrad. -/
def europeKaliningrad : List Era :=
  [⟨4920, .fixed 0, some ⟨1893, 4, .on 1, 0, .wall⟩⟩,
   ⟨3600, .recurring centralEurope, some ⟨1945, 4, .on 10, 0, .wall⟩⟩,
   ⟨7200, .recurring poland, some ⟨1946, 4, .on 7, 0, .wall⟩⟩,
   ⟨10800, .recurring russia, some ⟨1989, 3, .on 26, 7200, .standard⟩⟩,
   ⟨7200, .recurring russia, some ⟨2011, 3, .on 27, 7200, .standard⟩⟩,
   ⟨10800, .fixed 0, some ⟨2014, 10, .on 26, 7200, .standard⟩⟩,
   ⟨7200, .fixed 0, none⟩]

/-- The history of Europe/Kirov. -/
def europeKirov : List Era :=
  [⟨11928, .fixed 0, some ⟨1919, 7, .on 1, 0, .universal⟩⟩,
   ⟨10800, .fixed 0, some ⟨1930, 6, .on 21, 0, .wall⟩⟩,
   ⟨14400, .recurring russia, some ⟨1989, 3, .on 26, 7200, .standard⟩⟩,
   ⟨10800, .recurring russia, some ⟨1991, 3, .on 31, 7200, .standard⟩⟩,
   ⟨14400, .fixed 0, some ⟨1992, 3, .on 29, 7200, .standard⟩⟩,
   ⟨10800, .recurring russia, some ⟨2011, 3, .on 27, 7200, .standard⟩⟩,
   ⟨14400, .fixed 0, some ⟨2014, 10, .on 26, 7200, .standard⟩⟩,
   ⟨10800, .fixed 0, none⟩]

/-- The history of Europe/Kyiv. -/
def europeKyiv : List Era :=
  [⟨7324, .fixed 0, some ⟨1880, 1, .on 1, 0, .wall⟩⟩,
   ⟨7324, .fixed 0, some ⟨1924, 5, .on 2, 0, .wall⟩⟩,
   ⟨7200, .fixed 0, some ⟨1930, 6, .on 21, 0, .wall⟩⟩,
   ⟨10800, .fixed 0, some ⟨1941, 9, .on 20, 0, .wall⟩⟩,
   ⟨3600, .recurring centralEurope, some ⟨1943, 11, .on 6, 0, .wall⟩⟩,
   ⟨10800, .recurring russia, some ⟨1990, 7, .on 1, 7200, .wall⟩⟩,
   ⟨7200, .fixed 3600, some ⟨1991, 9, .on 29, 10800, .wall⟩⟩,
   ⟨7200, .recurring centralEurope, some ⟨1996, 5, .on 13, 0, .wall⟩⟩,
   ⟨7200, .recurring europeanUnion, none⟩]

/-- The history of Europe/Lisbon. -/
def europeLisbon : List Era :=
  [⟨-2205, .fixed 0, some ⟨1884, 1, .on 1, 0, .wall⟩⟩,
   ⟨-2205, .fixed 0, some ⟨1912, 1, .on 1, 0, .universal⟩⟩,
   ⟨0, .recurring portugal, some ⟨1966, 10, .on 2, 7200, .standard⟩⟩,
   ⟨3600, .fixed 0, some ⟨1976, 9, .on 26, 3600, .wall⟩⟩,
   ⟨0, .recurring portugal, some ⟨1986, 1, .on 1, 0, .wall⟩⟩,
   ⟨0, .recurring europeanUnion, some ⟨1992, 9, .on 27, 3600, .universal⟩⟩,
   ⟨3600, .recurring europeanUnion, some ⟨1996, 3, .on 31, 3600, .universal⟩⟩,
   ⟨0, .recurring europeanUnion, none⟩]

/-- The history of Europe/London. -/
def europeLondon : List Era :=
  [⟨-75, .fixed 0, some ⟨1847, 12, .on 1, 0, .wall⟩⟩,
   ⟨0, .recurring britain, some ⟨1968, 10, .on 27, 0, .wall⟩⟩,
   ⟨3600, .fixed 0, some ⟨1971, 10, .on 31, 7200, .universal⟩⟩,
   ⟨0, .recurring britain, some ⟨1996, 1, .on 1, 0, .wall⟩⟩,
   ⟨0, .recurring europeanUnion, none⟩]

/-- The history of Europe/Madrid. -/
def europeMadrid : List Era :=
  [⟨-884, .fixed 0, some ⟨1901, 1, .on 1, 0, .universal⟩⟩,
   ⟨0, .recurring spain, some ⟨1940, 3, .on 16, 82800, .wall⟩⟩,
   ⟨3600, .recurring spain, some ⟨1979, 1, .on 1, 0, .wall⟩⟩,
   ⟨3600, .recurring europeanUnion, none⟩]

/-- The history of Europe/Malta. -/
def europeMalta : List Era :=
  [⟨3484, .fixed 0, some ⟨1893, 11, .on 2, 0, .wall⟩⟩,
   ⟨3600, .recurring italy, some ⟨1973, 3, .on 31, 0, .wall⟩⟩,
   ⟨3600, .recurring malta, some ⟨1981, 1, .on 1, 0, .wall⟩⟩,
   ⟨3600, .recurring europeanUnion, none⟩]

/-- The history of Europe/Minsk. -/
def europeMinsk : List Era :=
  [⟨6616, .fixed 0, some ⟨1880, 1, .on 1, 0, .wall⟩⟩,
   ⟨6600, .fixed 0, some ⟨1924, 5, .on 2, 0, .wall⟩⟩,
   ⟨7200, .fixed 0, some ⟨1930, 6, .on 21, 0, .wall⟩⟩,
   ⟨10800, .fixed 0, some ⟨1941, 6, .on 28, 0, .wall⟩⟩,
   ⟨3600, .recurring centralEurope, some ⟨1944, 7, .on 3, 0, .wall⟩⟩,
   ⟨10800, .recurring russia, some ⟨1990, 1, .on 1, 0, .wall⟩⟩,
   ⟨10800, .fixed 0, some ⟨1991, 3, .on 31, 7200, .standard⟩⟩,
   ⟨7200, .recurring russia, some ⟨2011, 3, .on 27, 7200, .standard⟩⟩,
   ⟨10800, .fixed 0, none⟩]

/-- The history of Europe/Moscow. -/
def europeMoscow : List Era :=
  [⟨9017, .fixed 0, some ⟨1880, 1, .on 1, 0, .wall⟩⟩,
   ⟨9017, .fixed 0, some ⟨1916, 7, .on 3, 0, .wall⟩⟩,
   ⟨9079, .recurring russia, some ⟨1919, 7, .on 1, 0, .universal⟩⟩,
   ⟨10800, .recurring russia, some ⟨1921, 10, .on 1, 0, .wall⟩⟩,
   ⟨10800, .recurring russia, some ⟨1922, 10, .on 1, 0, .wall⟩⟩,
   ⟨7200, .fixed 0, some ⟨1930, 6, .on 21, 0, .wall⟩⟩,
   ⟨10800, .recurring russia, some ⟨1991, 3, .on 31, 7200, .standard⟩⟩,
   ⟨7200, .recurring russia, some ⟨1992, 1, .on 19, 7200, .standard⟩⟩,
   ⟨10800, .recurring russia, some ⟨2011, 3, .on 27, 7200, .standard⟩⟩,
   ⟨14400, .fixed 0, some ⟨2014, 10, .on 26, 7200, .standard⟩⟩,
   ⟨10800, .fixed 0, none⟩]

/-- The history of Europe/Paris. -/
def europeParis : List Era :=
  [⟨561, .fixed 0, some ⟨1891, 3, .on 16, 0, .wall⟩⟩,
   ⟨561, .fixed 0, some ⟨1911, 3, .on 11, 0, .wall⟩⟩,
   ⟨0, .recurring france, some ⟨1940, 6, .on 14, 82800, .wall⟩⟩,
   ⟨3600, .recurring centralEurope, some ⟨1944, 8, .on 25, 0, .wall⟩⟩,
   ⟨0, .recurring france, some ⟨1945, 9, .on 16, 10800, .wall⟩⟩,
   ⟨3600, .recurring france, some ⟨1977, 1, .on 1, 0, .wall⟩⟩,
   ⟨3600, .recurring europeanUnion, none⟩]

/-- The history of Europe/Prague. -/
def europePrague : List Era :=
  [⟨3464, .fixed 0, some ⟨1850, 1, .on 1, 0, .wall⟩⟩,
   ⟨3464, .fixed 0, some ⟨1891, 10, .on 1, 0, .wall⟩⟩,
   ⟨3600, .recurring centralEurope, some ⟨1945, 5, .on 9, 0, .wall⟩⟩,
   ⟨3600, .recurring czechia, some ⟨1946, 12, .on 1, 10800, .wall⟩⟩,
   ⟨3600, .fixed (-3600), some ⟨1947, 2, .on 23, 7200, .wall⟩⟩,
   ⟨3600, .recurring czechia, some ⟨1979, 1, .on 1, 0, .wall⟩⟩,
   ⟨3600, .recurring europeanUnion, none⟩]

/-- The history of Europe/Riga. -/
def europeRiga : List Era :=
  [⟨5794, .fixed 0, some ⟨1880, 1, .on 1, 0, .wall⟩⟩,
   ⟨5794, .fixed 0, some ⟨1918, 4, .on 15, 7200, .wall⟩⟩,
   ⟨5794, .fixed 3600, some ⟨1918, 9, .on 16, 10800, .wall⟩⟩,
   ⟨5794, .fixed 0, some ⟨1919, 4, .on 1, 7200, .wall⟩⟩,
   ⟨5794, .fixed 3600, some ⟨1919, 5, .on 22, 10800, .wall⟩⟩,
   ⟨5794, .fixed 0, some ⟨1926, 5, .on 11, 0, .wall⟩⟩,
   ⟨7200, .fixed 0, some ⟨1940, 8, .on 5, 0, .wall⟩⟩,
   ⟨10800, .fixed 0, some ⟨1941, 7, .on 1, 0, .wall⟩⟩,
   ⟨3600, .recurring centralEurope, some ⟨1944, 10, .on 13, 0, .wall⟩⟩,
   ⟨10800, .recurring russia, some ⟨1989, 3, .last .sun, 7200, .standard⟩⟩,
   ⟨7200, .fixed 3600, some ⟨1989, 9, .last .sun, 7200, .standard⟩⟩,
   ⟨7200, .recurring latvia, some ⟨1997, 1, .on 21, 0, .wall⟩⟩,
   ⟨7200, .recurring europeanUnion, some ⟨2000, 2, .on 29, 0, .wall⟩⟩,
   ⟨7200, .fixed 0, some ⟨2001, 1, .on 2, 0, .wall⟩⟩,
   ⟨7200, .recurring europeanUnion, none⟩]

/-- The history of Europe/Rome. -/
def europeRome : List Era :=
  [⟨2996, .fixed 0, some ⟨1866, 12, .on 12, 0, .wall⟩⟩,
   ⟨2996, .fixed 0, some ⟨1893, 10, .on 31, 82800, .universal⟩⟩,
   ⟨3600, .recurring italy, some ⟨1943, 9, .on 10, 0, .wall⟩⟩,
   ⟨3600, .recurring centralEurope, some ⟨1944, 6, .on 4, 0, .wall⟩⟩,
   ⟨3600, .recurring italy, some ⟨1980, 1, .on 1, 0, .wall⟩⟩,
   ⟨3600, .recurring europeanUnion, none⟩]

/-- The history of Europe/Samara. -/
def europeSamara : List Era :=
  [⟨12020, .fixed 0, some ⟨1919, 7, .on 1, 0, .universal⟩⟩,
   ⟨10800, .fixed 0, some ⟨1930, 6, .on 21, 0, .wall⟩⟩,
   ⟨14400, .fixed 0, some ⟨1935, 1, .on 27, 0, .wall⟩⟩,
   ⟨14400, .recurring russia, some ⟨1989, 3, .on 26, 7200, .standard⟩⟩,
   ⟨10800, .recurring russia, some ⟨1991, 3, .on 31, 7200, .standard⟩⟩,
   ⟨7200, .recurring russia, some ⟨1991, 9, .on 29, 7200, .standard⟩⟩,
   ⟨10800, .fixed 0, some ⟨1991, 10, .on 20, 10800, .wall⟩⟩,
   ⟨14400, .recurring russia, some ⟨2010, 3, .on 28, 7200, .standard⟩⟩,
   ⟨10800, .recurring russia, some ⟨2011, 3, .on 27, 7200, .standard⟩⟩,
   ⟨14400, .fixed 0, none⟩]

/-- The history of Europe/Saratov. -/
def europeSaratov : List Era :=
  [⟨11058, .fixed 0, some ⟨1919, 7, .on 1, 0, .universal⟩⟩,
   ⟨10800, .fixed 0, some ⟨1930, 6, .on 21, 0, .wall⟩⟩,
   ⟨14400, .recurring russia, some ⟨1988, 3, .on 27, 7200, .standard⟩⟩,
   ⟨10800, .recurring russia, some ⟨1991, 3, .on 31, 7200, .standard⟩⟩,
   ⟨14400, .fixed 0, some ⟨1992, 3, .on 29, 7200, .standard⟩⟩,
   ⟨10800, .recurring russia, some ⟨2011, 3, .on 27, 7200, .standard⟩⟩,
   ⟨14400, .fixed 0, some ⟨2014, 10, .on 26, 7200, .standard⟩⟩,
   ⟨10800, .fixed 0, some ⟨2016, 12, .on 4, 7200, .standard⟩⟩,
   ⟨14400, .fixed 0, none⟩]

/-- The history of Europe/Simferopol. -/
def europeSimferopol : List Era :=
  [⟨8184, .fixed 0, some ⟨1880, 1, .on 1, 0, .wall⟩⟩,
   ⟨8160, .fixed 0, some ⟨1924, 5, .on 2, 0, .wall⟩⟩,
   ⟨7200, .fixed 0, some ⟨1930, 6, .on 21, 0, .wall⟩⟩,
   ⟨10800, .fixed 0, some ⟨1941, 11, .on 1, 0, .wall⟩⟩,
   ⟨3600, .recurring centralEurope, some ⟨1944, 4, .on 13, 0, .wall⟩⟩,
   ⟨10800, .recurring russia, some ⟨1990, 1, .on 1, 0, .wall⟩⟩,
   ⟨10800, .fixed 0, some ⟨1990, 7, .on 1, 7200, .wall⟩⟩,
   ⟨7200, .fixed 0, some ⟨1992, 3, .on 20, 0, .wall⟩⟩,
   ⟨7200, .recurring centralEurope, some ⟨1994, 5, .on 1, 0, .wall⟩⟩,
   ⟨10800, .recurring centralEurope, some ⟨1996, 3, .on 31, 0, .standard⟩⟩,
   ⟨10800, .fixed 3600, some ⟨1996, 10, .on 27, 10800, .standard⟩⟩,
   ⟨10800, .fixed 0, some ⟨1997, 3, .last .sun, 3600, .universal⟩⟩,
   ⟨7200, .recurring europeanUnion, some ⟨2014, 3, .on 30, 7200, .wall⟩⟩,
   ⟨14400, .fixed 0, some ⟨2014, 10, .on 26, 7200, .standard⟩⟩,
   ⟨10800, .fixed 0, none⟩]

/-- The history of Europe/Sofia. -/
def europeSofia : List Era :=
  [⟨5596, .fixed 0, some ⟨1880, 1, .on 1, 0, .wall⟩⟩,
   ⟨7016, .fixed 0, some ⟨1894, 11, .on 30, 0, .wall⟩⟩,
   ⟨7200, .fixed 0, some ⟨1942, 11, .on 2, 10800, .wall⟩⟩,
   ⟨3600, .recurring centralEurope, some ⟨1945, 1, .on 1, 0, .wall⟩⟩,
   ⟨3600, .fixed 0, some ⟨1945, 4, .on 2, 10800, .wall⟩⟩,
   ⟨7200, .fixed 0, some ⟨1979, 3, .on 31, 82800, .wall⟩⟩,
   ⟨7200, .recurring bulgaria, some ⟨1982, 9, .on 26, 10800, .wall⟩⟩,
   ⟨7200, .recurring centralEurope, some ⟨1991, 1, .on 1, 0, .wall⟩⟩,
   ⟨7200, .recurring easternEurope, some ⟨1997, 1, .on 1, 0, .wall⟩⟩,
   ⟨7200, .recurring europeanUnion, none⟩]

/-- The history of Europe/Tallinn. -/
def europeTallinn : List Era :=
  [⟨5940, .fixed 0, some ⟨1880, 1, .on 1, 0, .wall⟩⟩,
   ⟨5940, .fixed 0, some ⟨1918, 2, .on 1, 0, .wall⟩⟩,
   ⟨3600, .recurring centralEurope, some ⟨1919, 7, .on 1, 0, .wall⟩⟩,
   ⟨5940, .fixed 0, some ⟨1921, 5, .on 1, 0, .wall⟩⟩,
   ⟨7200, .fixed 0, some ⟨1940, 8, .on 6, 0, .wall⟩⟩,
   ⟨10800, .fixed 0, some ⟨1941, 9, .on 15, 0, .wall⟩⟩,
   ⟨3600, .recurring centralEurope, some ⟨1944, 9, .on 22, 0, .wall⟩⟩,
   ⟨10800, .recurring russia, some ⟨1989, 3, .on 26, 7200, .standard⟩⟩,
   ⟨7200, .fixed 3600, some ⟨1989, 9, .on 24, 7200, .standard⟩⟩,
   ⟨7200, .recurring centralEurope, some ⟨1998, 9, .on 22, 0, .wall⟩⟩,
   ⟨7200, .recurring europeanUnion, some ⟨1999, 10, .on 31, 14400, .wall⟩⟩,
   ⟨7200, .fixed 0, some ⟨2002, 2, .on 21, 0, .wall⟩⟩,
   ⟨7200, .recurring europeanUnion, none⟩]

/-- The history of Europe/Tirane. -/
def europeTirane : List Era :=
  [⟨4760, .fixed 0, some ⟨1914, 1, .on 1, 0, .wall⟩⟩,
   ⟨3600, .fixed 0, some ⟨1940, 6, .on 16, 0, .wall⟩⟩,
   ⟨3600, .recurring albania, some ⟨1984, 7, .on 1, 0, .wall⟩⟩,
   ⟨3600, .recurring europeanUnion, none⟩]

/-- The history of Europe/Ulyanovsk. -/
def europeUlyanovsk : List Era :=
  [⟨11616, .fixed 0, some ⟨1919, 7, .on 1, 0, .universal⟩⟩,
   ⟨10800, .fixed 0, some ⟨1930, 6, .on 21, 0, .wall⟩⟩,
   ⟨14400, .recurring russia, some ⟨1989, 3, .on 26, 7200, .standard⟩⟩,
   ⟨10800, .recurring russia, some ⟨1991, 3, .on 31, 7200, .standard⟩⟩,
   ⟨7200, .recurring russia, some ⟨1992, 1, .on 19, 7200, .standard⟩⟩,
   ⟨10800, .recurring russia, some ⟨2011, 3, .on 27, 7200, .standard⟩⟩,
   ⟨14400, .fixed 0, some ⟨2014, 10, .on 26, 7200, .standard⟩⟩,
   ⟨10800, .fixed 0, some ⟨2016, 3, .on 27, 7200, .standard⟩⟩,
   ⟨14400, .fixed 0, none⟩]

/-- The history of Europe/Vienna. -/
def europeVienna : List Era :=
  [⟨3921, .fixed 0, some ⟨1893, 4, .on 1, 0, .wall⟩⟩,
   ⟨3600, .recurring centralEurope, some ⟨1920, 1, .on 1, 0, .wall⟩⟩,
   ⟨3600, .recurring austria, some ⟨1940, 4, .on 1, 7200, .standard⟩⟩,
   ⟨3600, .recurring centralEurope, some ⟨1945, 4, .on 2, 7200, .standard⟩⟩,
   ⟨3600, .fixed 3600, some ⟨1945, 4, .on 12, 7200, .standard⟩⟩,
   ⟨3600, .fixed 0, some ⟨1946, 1, .on 1, 0, .wall⟩⟩,
   ⟨3600, .recurring austria, some ⟨1981, 1, .on 1, 0, .wall⟩⟩,
   ⟨3600, .recurring europeanUnion, none⟩]

/-- The history of Europe/Vilnius. -/
def europeVilnius : List Era :=
  [⟨6076, .fixed 0, some ⟨1880, 1, .on 1, 0, .wall⟩⟩,
   ⟨5040, .fixed 0, some ⟨1917, 1, .on 1, 0, .wall⟩⟩,
   ⟨5736, .fixed 0, some ⟨1919, 10, .on 10, 0, .wall⟩⟩,
   ⟨3600, .fixed 0, some ⟨1920, 7, .on 12, 0, .wall⟩⟩,
   ⟨7200, .fixed 0, some ⟨1920, 10, .on 9, 0, .wall⟩⟩,
   ⟨3600, .fixed 0, some ⟨1940, 8, .on 3, 0, .wall⟩⟩,
   ⟨10800, .fixed 0, some ⟨1941, 6, .on 24, 0, .wall⟩⟩,
   ⟨3600, .recurring centralEurope, some ⟨1944, 8, .on 1, 0, .wall⟩⟩,
   ⟨10800, .recurring russia, some ⟨1989, 3, .on 26, 7200, .standard⟩⟩,
   ⟨7200, .recurring russia, some ⟨1991, 9, .on 29, 7200, .standard⟩⟩,
   ⟨7200, .recurring centralEurope, some ⟨1998, 1, .on 1, 0, .wall⟩⟩,
   ⟨7200, .fixed 0, some ⟨1998, 3, .on 29, 3600, .universal⟩⟩,
   ⟨3600, .recurring europeanUnion, some ⟨1999, 10, .on 31, 3600, .universal⟩⟩,
   ⟨7200, .fixed 0, some ⟨2003, 1, .on 1, 0, .wall⟩⟩,
   ⟨7200, .recurring europeanUnion, none⟩]

/-- The history of Europe/Volgograd. -/
def europeVolgograd : List Era :=
  [⟨10660, .fixed 0, some ⟨1920, 1, .on 3, 0, .wall⟩⟩,
   ⟨10800, .fixed 0, some ⟨1930, 6, .on 21, 0, .wall⟩⟩,
   ⟨14400, .fixed 0, some ⟨1961, 11, .on 11, 0, .wall⟩⟩,
   ⟨14400, .recurring russia, some ⟨1988, 3, .on 27, 7200, .standard⟩⟩,
   ⟨10800, .recurring russia, some ⟨1991, 3, .on 31, 7200, .standard⟩⟩,
   ⟨14400, .fixed 0, some ⟨1992, 3, .on 29, 7200, .standard⟩⟩,
   ⟨10800, .recurring russia, some ⟨2011, 3, .on 27, 7200, .standard⟩⟩,
   ⟨14400, .fixed 0, some ⟨2014, 10, .on 26, 7200, .standard⟩⟩,
   ⟨10800, .fixed 0, some ⟨2018, 10, .on 28, 7200, .standard⟩⟩,
   ⟨14400, .fixed 0, some ⟨2020, 12, .on 27, 7200, .standard⟩⟩,
   ⟨10800, .fixed 0, none⟩]

/-- The history of Europe/Warsaw. -/
def europeWarsaw : List Era :=
  [⟨5040, .fixed 0, some ⟨1880, 1, .on 1, 0, .wall⟩⟩,
   ⟨5040, .fixed 0, some ⟨1915, 8, .on 5, 0, .wall⟩⟩,
   ⟨3600, .recurring centralEurope, some ⟨1918, 9, .on 16, 10800, .wall⟩⟩,
   ⟨7200, .recurring poland, some ⟨1922, 6, .on 1, 0, .wall⟩⟩,
   ⟨3600, .recurring poland, some ⟨1940, 6, .on 23, 7200, .wall⟩⟩,
   ⟨3600, .recurring centralEurope, some ⟨1944, 10, .on 1, 0, .wall⟩⟩,
   ⟨3600, .recurring poland, some ⟨1977, 1, .on 1, 0, .wall⟩⟩,
   ⟨3600, .recurring westernEurope, some ⟨1988, 1, .on 1, 0, .wall⟩⟩,
   ⟨3600, .recurring europeanUnion, none⟩]

/-- The history of Europe/Zurich. -/
def europeZurich : List Era :=
  [⟨2048, .fixed 0, some ⟨1853, 7, .on 16, 0, .wall⟩⟩,
   ⟨1786, .fixed 0, some ⟨1894, 6, .on 1, 0, .wall⟩⟩,
   ⟨3600, .recurring switzerland, some ⟨1981, 1, .on 1, 0, .wall⟩⟩,
   ⟨3600, .recurring europeanUnion, none⟩]

/-- The zones of Europe by name. -/
def europeZones : List (String × List Era) :=
  [("Europe/Andorra", europeAndorra),
   ("Europe/Astrakhan", europeAstrakhan),
   ("Europe/Athens", europeAthens),
   ("Europe/Belgrade", europeBelgrade),
   ("Europe/Berlin", europeBerlin),
   ("Europe/Brussels", europeBrussels),
   ("Europe/Bucharest", europeBucharest),
   ("Europe/Budapest", europeBudapest),
   ("Europe/Chisinau", europeChisinau),
   ("Europe/Dublin", europeDublin),
   ("Europe/Gibraltar", europeGibraltar),
   ("Europe/Helsinki", europeHelsinki),
   ("Europe/Istanbul", europeIstanbul),
   ("Europe/Kaliningrad", europeKaliningrad),
   ("Europe/Kirov", europeKirov),
   ("Europe/Kyiv", europeKyiv),
   ("Europe/Lisbon", europeLisbon),
   ("Europe/London", europeLondon),
   ("Europe/Madrid", europeMadrid),
   ("Europe/Malta", europeMalta),
   ("Europe/Minsk", europeMinsk),
   ("Europe/Moscow", europeMoscow),
   ("Europe/Paris", europeParis),
   ("Europe/Prague", europePrague),
   ("Europe/Riga", europeRiga),
   ("Europe/Rome", europeRome),
   ("Europe/Samara", europeSamara),
   ("Europe/Saratov", europeSaratov),
   ("Europe/Simferopol", europeSimferopol),
   ("Europe/Sofia", europeSofia),
   ("Europe/Tallinn", europeTallinn),
   ("Europe/Tirane", europeTirane),
   ("Europe/Ulyanovsk", europeUlyanovsk),
   ("Europe/Vienna", europeVienna),
   ("Europe/Vilnius", europeVilnius),
   ("Europe/Volgograd", europeVolgograd),
   ("Europe/Warsaw", europeWarsaw),
   ("Europe/Zurich", europeZurich)]

end Daybook.Zone.Tables
